/-
Whose bytes a content download hands out.

The permission for a download is asked in the tenant of the evidence object, and the bytes are
chosen by the object's storage reference.  The two agree as long as a reference never names a
file in the directory of another tenant or Action Intent.  For an upload that holds by the way
the reference is made: the names below the root are found again in it.  A registration's
reference is the caller's, and nothing in the code compares it with the tenant and the Action
Intent; `OwnReference` is the condition on a registration under which it does no harm.

Of an evidence object only its origin matters here, and no call changes the origin of an object
that exists; a call adds at most one.
-/
import ControlPlane.Lib.Runs
import ControlPlane.Services.EvidenceContent

namespace ControlPlane.EvidenceContent

open IntentsApi (AuthenticatedSession HttpError)
open Prog

/-! ### Origins -/

/-- What an evidence object was stored with. -/
structure Origin where
  evidenceObjectId : String
  tenantId : String
  actionIntentRecordId : String
  storageMode : EvidenceStorageMode
  storageRef : String

/-- What an object says of where its content is. -/
def originOf (object : EvidenceObject) : Origin where
  evidenceObjectId := object.evidenceObjectId
  tenantId := object.tenantId
  actionIntentRecordId := object.actionIntentRecordId
  storageMode := object.storageMode
  storageRef := object.storageRef

/-- The origins of all objects. -/
def origins (db : Db) : List Origin := db.evidence.rows.map originOf

/-- The tenants and ids of the Action Intents. -/
def names (db : Db) : List (String × String) :=
  db.intents.rows.map fun intent => (intent.tenantId, intent.actionIntentRecordId)

theorem origins_writeMark (db : Db) (loaded : Evidence.Loaded) :
    origins (Evidence.writeMark db loaded) = origins db := by
  unfold Evidence.writeMark
  cases loaded.marked with
  | false => rfl
  | true =>
      cases hrow : db.evidence.get? loaded.object.evidenceObjectId with
      | none => simp
      | some row =>
          have hkey : db.evidence.get? row.evidenceObjectId = some row := by
            rw [Table.key_of_get? hrow, hrow]
          simp only [if_true]
          exact Table.map_put hkey rfl

theorem names_writeMark (db : Db) (loaded : Evidence.Loaded) :
    names (Evidence.writeMark db loaded) = names db := by
  unfold Evidence.writeMark
  cases loaded.marked with
  | false => rfl
  | true => cases db.evidence.get? loaded.object.evidenceObjectId <;> rfl

theorem origins_writeMarks (objects : List Evidence.Loaded) (db : Db) :
    origins (objects.foldl Evidence.writeMark db) = origins db :=
  Runs.foldl_keeps (I := fun db' => origins db' = origins db)
    (fun db' loaded h => (origins_writeMark db' loaded).trans h) objects rfl

theorem names_writeMarks (objects : List Evidence.Loaded) (db : Db) :
    names (objects.foldl Evidence.writeMark db) = names db :=
  Runs.foldl_keeps (I := fun db' => names db' = names db)
    (fun db' loaded h => (names_writeMark db' loaded).trans h) objects rfl

theorem origins_writeSync (db : Db) (intent : ActionIntentRecord) (sync : Evidence.EvidenceSync) :
    origins (Evidence.writeSync db intent sync) = origins db := by
  unfold Evidence.writeSync Evidence.writeEvidenceState
  rw [← origins_writeMarks sync.objects db]
  cases (sync.objects.foldl Evidence.writeMark db).intents.get? intent.actionIntentRecordId <;> rfl

theorem names_writeSync (db : Db) (intent : ActionIntentRecord) (sync : Evidence.EvidenceSync) :
    names (Evidence.writeSync db intent sync) = names db := by
  unfold Evidence.writeSync Evidence.writeEvidenceState
  rw [← names_writeMarks sync.objects db]
  generalize sync.objects.foldl Evidence.writeMark db = marked
  cases hrow : marked.intents.get? intent.actionIntentRecordId with
  | none => rfl
  | some row =>
      have hkey : marked.intents.get? row.actionIntentRecordId = some row := by
        rw [Table.key_of_get? hrow, hrow]
      exact Table.map_put hkey rfl

/-! ### The calls -/

section

variable {db : Db}

theorem refreshIfExpired_ensures {Q : Except ServiceError Bool → Db → Prop}
    (object : EvidenceObject) (h : ∀ marked, Q (.ok marked) db) : Ensures Q (Evidence.refreshIfExpired object) db := by
  unfold Evidence.refreshIfExpired
  refine Ensures.ite (fun _ => h _) fun _ => ?_
  cases object.expiresAt with
  | none => exact h _
  | some expiresAt => exact Ensures.read_bind (h _)

theorem refreshAll_ensures (objects : List EvidenceObject) :
    ∀ {Q : Except ServiceError (List Evidence.Loaded) → Db → Prop},
      (∀ loaded, Q (.ok loaded) db) → Ensures Q (Evidence.refreshAll objects) db := by
  induction objects with
  | nil =>
      intro Q h
      exact h _
  | cons object rest ih =>
      intro Q h
      unfold Evidence.refreshAll
      refine Ensures.bind (refreshIfExpired_ensures object fun marked => ?_)
      exact Ensures.bind (ih fun later => h _)

theorem synchronize_ensures {Q : Except ServiceError Evidence.EvidenceSync → Db → Prop}
    (added : List EvidenceObject) (intent : ActionIntentRecord) (h : ∀ sync, Q (.ok sync) db) :
    Ensures Q (Evidence.synchronizeActionIntentState added intent) db := by
  unfold Evidence.synchronizeActionIntentState
  refine Ensures.read_bind ?_
  exact Ensures.bind (refreshAll_ensures _ fun objects => h _)

end

/-- What a call may do to the evidence: add one object of this origin, or nothing. -/
def AddsAtMost (origin : Origin) (db db' : Db) : Prop :=
  names db' = names db ∧ (origins db' = origins db ∨ origins db' = origins db ++ [origin])

theorem AddsAtMost.refl (origin : Origin) (db : Db) : AddsAtMost origin db db :=
  ⟨rfl, .inl rfl⟩

/-- The origin that a submission and its storage give an object. -/
def newOrigin (submission : Evidence.EvidenceSubmission) (stored : Evidence.StoredArtifact)
    (evidenceObjectId : String) : Origin :=
  originOf (Evidence.newObject submission stored none evidenceObjectId)

theorem addEvidence_ensures (intent : ActionIntentRecord)
    (submission : Evidence.EvidenceSubmission) (stored : Evidence.StoredArtifact)
    (evidenceObjectId : String) (db : Db) :
    Ensures (fun _ db' => AddsAtMost (newOrigin submission stored evidenceObjectId) db db')
      (Evidence.addEvidence intent submission stored evidenceObjectId) db := by
  unfold Evidence.addEvidence
  have hexpiration : ∀ {Q : Except ServiceError (Option Time) → Db → Prop},
      (∀ expiresAt, Q (.ok expiresAt) db) →
        Ensures Q (Evidence.resolveExpiration intent submission.expiresAt) db := by
    intro Q h
    unfold Evidence.resolveExpiration
    split
    · exact h _
    · exact h _
    · exact h _
    · exact Ensures.read_bind (h _)
  refine Ensures.bind (hexpiration fun expiresAt => ?_)
  refine Ensures.bind (refreshIfExpired_ensures _ fun marked => ?_)
  refine Ensures.bind (synchronize_ensures _ intent fun sync => ?_)
  refine Ensures.bind (Ensures.transaction ?_ ?_)
  · intro _ db' hcommit
    have hadds : AddsAtMost (newOrigin submission stored evidenceObjectId) db db' := by
      unfold Evidence.commitObject at hcommit
      generalize hobject : (if marked = true then
        { Evidence.newObject submission stored expiresAt evidenceObjectId with
            status := EvidenceStatus.expired }
        else Evidence.newObject submission stored expiresAt evidenceObjectId) = object at hcommit
      have horigin : originOf object = newOrigin submission stored evidenceObjectId := by
        rw [← hobject]
        cases marked <;> rfl
      cases hinsert : db.evidence.insert? object with
      | none => simp [hinsert] at hcommit
      | some evidence =>
          simp only [hinsert, Except.ok.injEq, Prod.mk.injEq, true_and] at hcommit
          subst hcommit
          refine ⟨names_writeSync _ _ _, .inr ((origins_writeSync _ _ _).trans ?_)⟩
          show evidence.rows.map originOf = _
          rw [(Table.insert?_eq_some hinsert).2, List.map_append, List.map_singleton, horigin]
          rfl
    refine Ensures.read_bind ?_
    cases db'.evidence.get? evidenceObjectId <;> exact hadds
  · intro e _
    exact AddsAtMost.refl _ db

/-- What the checks of a registration or an upload have found, when they pass. -/
theorem checks_ensures {Q : Except ServiceError ActionIntentRecord → Db → Prop} {db : Db}
    (tenantId actionIntentRecordId : String)
    (hok : ∀ intent, db.intents.get? actionIntentRecordId = some intent →
      intent.tenantId = tenantId → Q (.ok intent) db)
    (herror : ∀ e, Q (.error e) db) :
    Ensures Q (Evidence.getActionIntent tenantId actionIntentRecordId) db := by
  unfold Evidence.getActionIntent
  refine Ensures.read_bind ?_
  cases hget : db.intents.get? actionIntentRecordId with
  | none => exact herror _
  | some intent =>
      by_cases htenant : intent.tenantId = tenantId
      · simp only [htenant, ne_eq, not_true_eq_false, if_false]
        exact hok intent hget htenant
      · simp only [htenant, ne_eq, not_false_eq_true, if_true]
        exact herror _

theorem binding_ensures {Q : Except ServiceError Unit → Db → Prop} {db : Db}
    (intent : ActionIntentRecord) (approvalRequestId : Option String) (h : ∀ r, Q r db) :
    Ensures Q (Evidence.validateApprovalBinding intent approvalRequestId) db := by
  unfold Evidence.validateApprovalBinding
  cases approvalRequestId with
  | none => exact h _
  | some id =>
      refine Ensures.read_bind ?_
      cases db.approvals.get? id with
      | none => exact h _
      | some request =>
          show Ensures Q (if request.tenantId ≠ intent.tenantId then _ else _) db
          refine Ensures.ite (fun _ => h _) fun _ => ?_
          exact Ensures.ite (fun _ => h _) fun _ => h _

theorem registerEvidence_ensures (submission : Evidence.EvidenceSubmission)
    (stored : Evidence.StoredArtifact) (evidenceObjectId : String) (db : Db) :
    Ensures (fun _ db' => AddsAtMost (newOrigin submission stored evidenceObjectId) db db')
      (Evidence.registerEvidence submission stored evidenceObjectId) db := by
  unfold Evidence.registerEvidence
  refine Ensures.bind (checks_ensures _ _ (fun intent _ _ => ?_) fun e => .refl _ db)
  refine Ensures.bind (binding_ensures intent _ fun r => ?_)
  cases r with
  | error e => exact .refl _ db
  | ok => exact addEvidence_ensures intent submission stored evidenceObjectId db

theorem uploadEvidence_ensures (submission : Evidence.EvidenceSubmission)
    (upload : Except ServiceError Evidence.StoredArtifact) (evidenceObjectId : String) (db : Db) :
    Ensures (fun _ db' => names db' = names db ∧ (origins db' = origins db ∨
        ∃ stored, upload = .ok stored ∧
          origins db' = origins db ++ [newOrigin submission stored evidenceObjectId]))
      (Evidence.uploadEvidence submission upload evidenceObjectId) db := by
  unfold Evidence.uploadEvidence
  refine Ensures.bind (checks_ensures _ _ (fun intent _ _ => ?_) fun e => ⟨rfl, .inl rfl⟩)
  refine Ensures.bind (binding_ensures intent _ fun r => ?_)
  cases r with
  | error e => exact ⟨rfl, .inl rfl⟩
  | ok =>
      refine Ensures.ofExcept_bind ?_ fun e _ => ⟨rfl, .inl rfl⟩
      intro stored hstored
      refine (addEvidence_ensures intent submission stored evidenceObjectId db).mono ?_
      rintro _ db' ⟨hnames, horigins | horigins⟩
      · exact ⟨hnames, .inl horigins⟩
      · exact ⟨hnames, .inr ⟨stored, hstored, horigins⟩⟩

theorem uploadChecks_ensures (request : EvidenceUploadRequest) (db : Db) :
    Ensures (fun r db' => db' = db ∧
        (r = .ok () → (request.tenantId, request.actionIntentRecordId) ∈ names db))
      (uploadChecks request) db := by
  unfold uploadChecks
  refine Ensures.bind (checks_ensures _ _ (fun intent hget htenant => ?_) fun e => ⟨rfl, nofun⟩)
  refine binding_ensures intent _ fun r => ⟨rfl, fun _ => ?_⟩
  refine List.mem_map.mpr ⟨intent, Table.mem_of_get? hget, ?_⟩
  rw [htenant, Table.key_of_get? hget]

/-- A lookup leaves names and origins, and what it finds was there before. -/
structure Finds (db : Db) (r : Except ServiceError EvidenceObject) (db' : Db) : Prop where
  names : names db' = names db
  origins : origins db' = origins db
  found : ∀ object, r = .ok object → originOf object ∈ EvidenceContent.origins db

theorem Finds.error (e : ServiceError) {db db' : Db}
    (hnames : EvidenceContent.names db' = EvidenceContent.names db)
    (horigins : EvidenceContent.origins db' = EvidenceContent.origins db) :
    Finds db (.error e) db' :=
  ⟨hnames, horigins, fun _ h => nomatch h⟩

theorem Finds.row {db db' : Db} {id : String} {row : EvidenceObject}
    (hrow : db'.evidence.get? id = some row)
    (hnames : EvidenceContent.names db' = EvidenceContent.names db)
    (horigins : EvidenceContent.origins db' = EvidenceContent.origins db) :
    Finds db (.ok row) db' := by
  refine ⟨hnames, horigins, ?_⟩
  rintro object heq
  obtain rfl : row = object := by injection heq
  rw [← horigins]
  exact List.mem_map_of_mem (Table.mem_of_get? hrow)

theorem getEvidence_ensures (evidenceObjectId : String) (db : Db) :
    Ensures (Finds db) (getEvidence evidenceObjectId) db := by
  unfold getEvidence
  refine Ensures.read_bind ?_
  cases hget : db.evidence.get? evidenceObjectId with
  | none => exact Finds.error _ rfl rfl
  | some object =>
      refine Ensures.bind (refreshIfExpired_ensures object fun marked => ?_)
      refine Ensures.ite (fun _ => ?_) fun _ => Finds.row hget rfl rfl
      refine Ensures.read_bind ?_
      cases db.intents.get? object.actionIntentRecordId with
      | none => exact Finds.error _ rfl rfl
      | some intent =>
          refine Ensures.bind (synchronize_ensures _ intent fun sync => ?_)
          refine Ensures.update_bind ?_
          have hnames := (names_writeSync (Evidence.writeMark db ⟨object, true⟩) intent sync).trans
            (names_writeMark db ⟨object, true⟩)
          have horigins :=
            (origins_writeSync (Evidence.writeMark db ⟨object, true⟩) intent sync).trans
              (origins_writeMark db ⟨object, true⟩)
          generalize Evidence.writeSync (Evidence.writeMark db ⟨object, true⟩) intent sync
            = db' at hnames horigins ⊢
          refine Ensures.read_bind ?_
          cases hrow : db'.evidence.get? evidenceObjectId with
          | none => exact Finds.error _ hnames horigins
          | some row => exact Finds.row hrow hnames horigins

/-! ### Names -/

theorem HexId.isName (id : HexId) : Path.IsName id.text ∧ '\x00' ∉ id.text.toList := by
  have hout : ∀ c ∈ id.text.toList, c ≠ '/' ∧ c ≠ '.' ∧ c ≠ '\x00' := by
    intro c hc
    have hdigit := id.digits c hc
    refine ⟨?_, ?_, ?_⟩ <;>
      · rintro rfl
        revert hdigit
        decide
  have hlength := id.length
  refine ⟨⟨?_, ?_, ?_, fun h => (hout _ h).1 rfl⟩, fun h => (hout _ h).2.2 rfl⟩ <;>
    · intro heq
      rw [heq] at hlength
      revert hlength
      decide

/-- An id with an ending is still a name. -/
theorem HexId.isName_append (id : HexId) {ending : String} (hslash : '/' ∉ ending.toList)
    (hnull : '\x00' ∉ ending.toList) :
    Path.IsName (id.text ++ ending) ∧ '\x00' ∉ (id.text ++ ending).toList := by
  obtain ⟨hname, hid⟩ := id.isName
  have hlong : 2 < (id.text ++ ending).length := by
    rw [String.length_append, id.length]
    omega
  refine ⟨⟨?_, ?_, ?_, ?_⟩, ?_⟩
  · intro heq
    rw [heq] at hlong
    simp at hlong
  · intro heq
    rw [heq] at hlong
    revert hlong
    decide
  · intro heq
    rw [heq] at hlong
    revert hlong
    decide
  · simp [hname.noSlash, hslash]
  · simp [hid, hnull]

/-! ### References -/

/-- A reference that names no file which an upload for another tenant or Action Intent could
have. -/
def OwnReference (fs : Filesystem) (tenantId actionIntentRecordId storageRef : String) : Prop :=
  ∀ (otherTenantId otherIntentId evidenceObjectId : HexId) (ending : String),
    fs.resolve (Path.join fs.root storageRef)
        = .ok (fs.root ++ [otherTenantId.text, otherIntentId.text,
            evidenceObjectId.text ++ ending]) →
      otherTenantId.text = tenantId ∧ otherIntentId.text = actionIntentRecordId

/-- The names of an upload are found again in its reference. -/
theorem ownReference_render (fs : Filesystem) {tenantId actionIntentRecordId name : String}
    (hnames : ∀ n ∈ [tenantId, actionIntentRecordId, name],
      Path.IsName n ∧ '\x00' ∉ n.toList) :
    OwnReference fs tenantId actionIntentRecordId
      (Path.render [tenantId, actionIntentRecordId, name]) := by
  intro otherTenantId otherIntentId evidenceObjectId ending hresolve
  have hjoin := Path.join_render fs.root (List.cons_ne_nil tenantId [actionIntentRecordId, name])
    fun n hn => (hnames n hn).1
  rw [hjoin, fs.resolve_below _ hnames] at hresolve
  have hsame := List.append_cancel_left (Except.ok.inj hresolve)
  simp only [List.cons.injEq] at hsame
  exact ⟨hsame.1.symm, hsame.2.1.symm⟩

/-! ### What a run keeps -/

/-- Every file lies where its upload belongs, and no object refers to another's. -/
structure Sound (fs : Filesystem) (vault : Vault) : Prop where
  hex : ∀ name ∈ names vault.db,
    (∃ id : HexId, id.text = name.1) ∧ ∃ id : HexId, id.text = name.2
  files : ∀ file ∈ vault.files, ∃ (tenantId actionIntentRecordId evidenceObjectId : HexId)
      (ending : String),
    file.tenantId = tenantId.text ∧ file.actionIntentRecordId = actionIntentRecordId.text ∧
      file.path = fs.root ++ [tenantId.text, actionIntentRecordId.text,
        evidenceObjectId.text ++ ending]
  references : ∀ origin ∈ origins vault.db, origin.storageMode = .filesystem →
    OwnReference fs origin.tenantId origin.actionIntentRecordId origin.storageRef

/-- A call that keeps the names and adds objects with references of their own. -/
theorem Sound.db {fs : Filesystem} {vault : Vault} (h : Sound fs vault) {db : Db}
    (hnames : names db = names vault.db)
    (horigins : ∀ origin ∈ origins db, origin ∈ origins vault.db ∨
      (origin.storageMode = .filesystem →
        OwnReference fs origin.tenantId origin.actionIntentRecordId origin.storageRef)) :
    Sound fs { vault with db := db } where
  hex := by
    intro name hname
    exact h.hex name (hnames ▸ hname)
  files := h.files
  references := by
    intro origin horigin hmode
    rcases horigins origin horigin with hold | hnew
    · exact h.references origin hold hmode
    · exact hnew hmode

theorem call_of_ensures {α : Type} (vault : Vault) {call : Call α}
    {Q : Except ServiceError α → Db → Prop} (h : Ensures Q call vault.db) :
    ∃ r db, vault.call call = (r.mapError httpErrorOf, { vault with db := db }) ∧ Q r db := by
  obtain ⟨r, db, halone, hq⟩ := h.alone_eq
  refine ⟨r, db, ?_, hq⟩
  unfold Vault.call
  rw [halone]

/-! ### What a download hands out -/

/-- Downloads hand out the files of the object's own tenant and Action Intent, to sessions that
may read them. -/
structure Isolated (deployment : Deployment) (vault : Vault) : Prop where
  ownFile : ∀ evidenceObjectId object file after,
    getEvidenceContent deployment evidenceObjectId vault = (.ok (object, file), after) →
      file.tenantId = object.tenantId ∧ file.actionIntentRecordId = object.actionIntentRecordId
  permitted : ∀ session evidenceObjectId object file after,
    contentEndpoint deployment session evidenceObjectId vault = (.ok (object, file), after) →
      session.hasTenantPermission file.tenantId tenantEvidenceRead = true

/-- The file that is opened for an object is the one its reference resolves to. -/
theorem contentOf_ok {deployment : Deployment} {files : List StoredFile} {object : EvidenceObject}
    {file : StoredFile} (h : contentOf deployment files object = .ok file) :
    object.storageMode = .filesystem ∧ file ∈ files ∧
      deployment.fs.resolve (Path.join deployment.fs.root object.storageRef) = .ok file.path := by
  unfold contentOf at h
  cases hmode : object.storageMode with
  | filesystem =>
      simp only [hmode] at h
      unfold openContent at h
      cases hresolve : deployment.fs.resolve (Path.join deployment.fs.root object.storageRef) with
      | error message => simp [hresolve] at h
      | ok candidate =>
          simp only [hresolve] at h
          split at h
          · cases h
          · cases hfile : fileAt files candidate with
            | none => simp [hfile] at h
            | some found =>
                simp only [hfile, Except.ok.injEq] at h
                subst h
                have hpath : found.path = candidate := by simpa using List.find?_some hfile
                exact ⟨rfl, List.mem_of_find?_eq_some hfile, by rw [hpath]⟩
  | objectStore =>
      simp only [hmode] at h
      split at h <;> cases h
  | externalUri => simp [hmode] at h
  | inlineMetadataOnly => simp [hmode] at h

theorem getEvidenceContent_ok {deployment : Deployment} {vault after : Vault}
    {evidenceObjectId : String} {object : EvidenceObject} {file : StoredFile}
    (h : getEvidenceContent deployment evidenceObjectId vault = (.ok (object, file), after)) :
    originOf object ∈ origins vault.db ∧ contentOf deployment vault.files object = .ok file := by
  obtain ⟨r, db, hcall, hfinds⟩ := call_of_ensures vault (getEvidence_ensures evidenceObjectId vault.db)
  unfold getEvidenceContent at h
  rw [hcall] at h
  cases r with
  | error e => simp [Except.mapError] at h
  | ok found =>
      simp only [Except.mapError] at h
      cases hcontent : contentOf deployment vault.files found with
      | error e => simp [hcontent] at h
      | ok opened =>
          simp only [hcontent, Prod.mk.injEq, Except.ok.injEq] at h
          obtain ⟨⟨rfl, rfl⟩, -⟩ := h
          exact ⟨hfinds.found found rfl, hcontent⟩

theorem Sound.isolated {deployment : Deployment} {vault : Vault}
    (h : Sound deployment.fs vault) : Isolated deployment vault := by
  have hown : ∀ evidenceObjectId object file after,
      getEvidenceContent deployment evidenceObjectId vault = (.ok (object, file), after) →
        file.tenantId = object.tenantId ∧
          file.actionIntentRecordId = object.actionIntentRecordId := by
    intro evidenceObjectId object file after hok
    obtain ⟨horigin, hcontent⟩ := getEvidenceContent_ok hok
    obtain ⟨hmode, hfile, hresolve⟩ := contentOf_ok hcontent
    obtain ⟨tenantId, actionIntentRecordId, writtenFor, ending, htenant, hintent, hpath⟩ :=
      h.files file hfile
    rw [hpath] at hresolve
    rw [htenant, hintent]
    exact h.references _ horigin hmode _ _ _ _ hresolve
  refine ⟨hown, ?_⟩
  intro session evidenceObjectId object file after hok
  unfold contentEndpoint at hok
  cases hservice : getEvidenceContent deployment evidenceObjectId vault with
  | mk result after' =>
      rw [hservice] at hok
      cases result with
      | error e => cases hok
      | ok found =>
          unfold requireTenantPermission at hok
          by_cases hpermitted :
              session.hasTenantPermission found.1.tenantId tenantEvidenceRead = true
          · simp only [hpermitted, if_true, Prod.mk.injEq, Except.ok.injEq] at hok
            obtain ⟨⟨rfl, rfl⟩, -⟩ := hok
            rw [(hown _ _ _ _ hservice).1]
            exact hpermitted
          · simp [hpermitted] at hok

/-- What was stored under names of its own is what is read back there. -/
theorem openContent_below (fs : Filesystem) {files : List StoredFile} {object : EvidenceObject}
    {names : List String} {file : StoredFile} (hne : names ≠ [])
    (hnames : ∀ name ∈ names, Path.IsName name ∧ '\x00' ∉ name.toList)
    (hobject : object.storageRef = Path.render names)
    (hfile : fileAt files (fs.root ++ names) = some file) :
    openContent fs files object = .ok file := by
  have hjoin : Path.join fs.root object.storageRef = fs.root ++ names := by
    rw [hobject, Path.join_render _ hne fun name hname => (hnames name hname).1]
  have hbelow : ¬ (fs.root ++ names ≠ fs.root
      ∧ ¬ (fs.root <+: fs.root ++ names ∧ fs.root ≠ fs.root ++ names)) := by
    simp [hne]
  rw [openContent, hjoin, fs.resolve_below names hnames]
  simp only [hfile]
  rw [if_neg hbelow]

theorem registerEndpoint_granted {session : AuthenticatedSession} {principalType : String}
    {request : EvidenceRegisterRequest} {evidenceObjectId : HexId} {vault : Vault}
    (hvalid : request.isValid = true)
    (hpermitted : session.hasTenantPermission request.tenantId tenantEvidenceWrite = true) :
    registerEndpoint session principalType request evidenceObjectId vault
      = vault.call (Evidence.registerEvidence
          { tenantId := request.tenantId
            actionIntentRecordId := request.actionIntentRecordId
            approvalRequestId := request.approvalRequestId
            evidenceType := request.evidenceType
            originalFilename := request.originalFilename
            mediaType := request.mediaType
            uploadedBy := ⟨principalType, session.principalId⟩
            evidenceMetadata := request.evidenceMetadata
            expiresAt := request.expiresAt }
          { storageMode := request.storageMode
            storageRef := request.storageRef
            contentDigest := request.contentDigest
            sizeBytes := request.sizeBytes }
          evidenceObjectId.text) := by
  rw [registerEndpoint, if_neg (ne_false_of_eq_true hvalid), requireTenantPermission,
    if_pos hpermitted]

/-- A session without the permission leaves the vault as it is. -/
theorem registerEndpoint_refused {session : AuthenticatedSession} (principalType : String)
    {request : EvidenceRegisterRequest} (evidenceObjectId : HexId) (vault : Vault)
    (hrefused : session.hasTenantPermission request.tenantId tenantEvidenceWrite = false) :
    (registerEndpoint session principalType request evidenceObjectId vault).2 = vault := by
  unfold registerEndpoint
  by_cases hvalid : request.isValid = false
  · rw [if_pos hvalid]
  · rw [if_neg hvalid, requireTenantPermission, if_neg (ne_true_of_eq_false hrefused)]

theorem contentEndpoint_granted {deployment : Deployment} {session : AuthenticatedSession}
    {evidenceObjectId : String} {vault after : Vault} {object : EvidenceObject} {file : StoredFile}
    (hfound : vault.call (getEvidence evidenceObjectId) = (.ok object, after))
    (hopen : contentOf deployment after.files object = .ok file)
    (hpermitted : session.hasTenantPermission object.tenantId tenantEvidenceRead = true) :
    contentEndpoint deployment session evidenceObjectId vault = (.ok (object, file), after) := by
  have hcontent : getEvidenceContent deployment evidenceObjectId vault
      = (.ok (object, file), after) := by
    simp only [getEvidenceContent, hfound, hopen]
  simp only [contentEndpoint, hcontent, requireTenantPermission, if_pos hpermitted]

theorem stepEvidence_register (deployment : Deployment) (vault : Vault)
    (session : AuthenticatedSession) (principalType : String) (request : EvidenceRegisterRequest)
    (evidenceObjectId : HexId) :
    stepEvidence deployment vault (.register session principalType request evidenceObjectId)
      = (registerEndpoint session principalType request evidenceObjectId vault).2 := rfl

/-! ### Runs -/

/-- A registration is harmless if no object is stored for it, or its reference names no file of
another tenant or Action Intent; the other requests always are. -/
def EvidenceEvent.Harmless (fs : Filesystem) (vault : Vault) : EvidenceEvent → Prop
  | .register session principalType request evidenceObjectId =>
      origins (registerEndpoint session principalType request evidenceObjectId vault).2.db
        ≠ origins vault.db → request.storageMode = .filesystem →
      OwnReference fs request.tenantId request.actionIntentRecordId request.storageRef
  | .upload .. | .content .. | .meanwhile .. => True

theorem Sound.register {fs : Filesystem} {vault : Vault} (h : Sound fs vault)
    (session : AuthenticatedSession) (principalType : String) (request : EvidenceRegisterRequest)
    (evidenceObjectId : HexId)
    (hown : origins (registerEndpoint session principalType request evidenceObjectId vault).2.db
        ≠ origins vault.db → request.storageMode = .filesystem →
      OwnReference fs request.tenantId request.actionIntentRecordId request.storageRef) :
    Sound fs (registerEndpoint session principalType request evidenceObjectId vault).2 := by
  unfold registerEndpoint at hown ⊢
  by_cases hvalid : request.isValid = false
  · rw [if_pos hvalid]
    exact h
  · rw [if_neg hvalid] at hown ⊢
    cases hpermitted : requireTenantPermission session request.tenantId tenantEvidenceWrite with
    | error e => exact h
    | ok =>
        obtain ⟨r, db, hcall, hnames, horigins⟩ :=
          call_of_ensures vault (registerEvidence_ensures _ _ evidenceObjectId.text vault.db)
        rw [hcall]
        rw [hpermitted] at hown
        simp only [hcall] at hown
        refine h.db hnames ?_
        intro origin horigin
        rcases horigins with hsame | hadded
        · exact .inl (hsame ▸ horigin)
        · have hstored : origins db ≠ origins vault.db := by
            rw [hadded, ne_eq, List.append_right_eq_self]
            exact List.cons_ne_nil _ _
          rw [hadded, List.mem_append, List.mem_singleton] at horigin
          rcases horigin with hold | rfl
          · exact .inl hold
          · exact .inr (hown hstored)

theorem storeUpload_ok {fs : Filesystem} {tenantId actionIntentRecordId : HexId}
    {evidenceObjectId : HexId} {filename : String} {payload : Bytes} {file : StoredFile}
    {stored : Evidence.StoredArtifact}
    (h : storeUpload fs tenantId.text actionIntentRecordId.text evidenceObjectId.text filename
      payload = .ok (file, stored)) :
    (file.tenantId = tenantId.text ∧ file.actionIntentRecordId = actionIntentRecordId.text ∧
        ∃ ending, file.path = fs.root ++ [tenantId.text, actionIntentRecordId.text,
          evidenceObjectId.text ++ ending]) ∧
      OwnReference fs tenantId.text actionIntentRecordId.text stored.storageRef := by
  unfold storeUpload at h
  generalize hsuffix : String.ofList
    ((Path.suffix (if filename = "" then "upload.bin" else filename)).toList.take 16) = ending at h
  by_cases hnull : '\x00' ∈ ending.toList
  · simp [hnull] at h
  · simp only [hnull, if_false, Except.ok.injEq, Prod.mk.injEq] at h
    obtain ⟨rfl, rfl⟩ := h
    refine ⟨⟨rfl, rfl, _, rfl⟩, ownReference_render fs ?_⟩
    have hslash : '/' ∉ ending.toList := by
      rw [← hsuffix, String.toList_ofList]
      exact fun hmem => Path.noSlash_suffix _ (List.mem_of_mem_take hmem)
    intro name hname
    simp only [List.mem_cons, List.not_mem_nil, or_false] at hname
    rcases hname with rfl | rfl | rfl
    · exact tenantId.isName
    · exact actionIntentRecordId.isName
    · exact evidenceObjectId.isName_append hslash hnull

theorem Sound.upload {fs : Filesystem} {vault : Vault} (h : Sound fs vault)
    (session : AuthenticatedSession) (principalType : String) (request : EvidenceUploadRequest)
    (evidenceObjectId : HexId) :
    Sound fs (uploadEndpoint fs session principalType request evidenceObjectId vault).2 := by
  unfold uploadEndpoint
  cases requireTenantPermission session request.tenantId tenantEvidenceWrite with
  | error e => exact h
  | ok =>
      obtain ⟨r, db, hcall, rfl, hchecked⟩ :=
        call_of_ensures vault (uploadChecks_ensures request vault.db)
      simp only [hcall]
      cases r with
      | error e => exact h
      | ok =>
          have hname := hchecked rfl
          obtain ⟨⟨tenantId, htenant⟩, actionIntentRecordId, hintent⟩ := h.hex _ hname
          replace htenant : tenantId.text = request.tenantId := htenant
          replace hintent : actionIntentRecordId.text = request.actionIntentRecordId := hintent
          simp only [Except.mapError]
          generalize hfilename : (if request.filename.getD "" = "" then "upload.bin"
            else request.filename.getD "") = filename
          cases hstored : storeUpload fs request.tenantId request.actionIntentRecordId
            evidenceObjectId.text filename request.payload with
          | error e =>
              obtain ⟨r, db, hcall', hnames, horigins⟩ := call_of_ensures
                vault (uploadEvidence_ensures _ _ evidenceObjectId.text vault.db)
              simp only [Except.map] at hcall' ⊢
              rw [hcall']
              refine h.db hnames ?_
              intro origin horigin
              rcases horigins with hsame | ⟨stored, hok, -⟩
              · exact .inl (hsame ▸ horigin)
              · cases hok
          | ok written =>
              obtain ⟨file, stored⟩ := written
              rw [← htenant, ← hintent] at hstored
              obtain ⟨⟨hfileTenant, hfileIntent, ending, hpath⟩, hown⟩ := storeUpload_ok hstored
              have hsound : Sound fs { vault with files := file :: vault.files } := by
                refine ⟨h.hex, ?_, h.references⟩
                intro other hother
                rcases List.mem_cons.mp hother with rfl | hother
                · exact ⟨tenantId, actionIntentRecordId, evidenceObjectId, ending, hfileTenant,
                    hfileIntent, hpath⟩
                · exact h.files other hother
              obtain ⟨r, db, hcall', hnames, horigins⟩ := call_of_ensures
                { vault with files := file :: vault.files }
                (uploadEvidence_ensures _ _ evidenceObjectId.text vault.db)
              simp only [Except.map] at hcall' ⊢
              rw [hcall']
              refine hsound.db hnames ?_
              intro origin horigin
              rcases horigins with hsame | ⟨stored', hok, hadded⟩
              · exact .inl (hsame ▸ horigin)
              · obtain rfl : stored = stored' := Except.ok.inj hok
                rw [hadded, List.mem_append, List.mem_singleton] at horigin
                rcases horigin with hold | rfl
                · exact .inl hold
                · refine .inr fun _ => ?_
                  rw [← htenant, ← hintent]
                  exact hown

theorem Sound.content {deployment : Deployment} {vault : Vault} (h : Sound deployment.fs vault)
    (session : AuthenticatedSession) (evidenceObjectId : String) :
    Sound deployment.fs (contentEndpoint deployment session evidenceObjectId vault).2 := by
  obtain ⟨r, db, hcall, hfinds⟩ := call_of_ensures vault (getEvidence_ensures evidenceObjectId vault.db)
  have hsound : Sound deployment.fs { vault with db := db } :=
    h.db hfinds.names fun origin horigin => .inl (hfinds.origins ▸ horigin)
  unfold contentEndpoint getEvidenceContent
  rw [hcall]
  cases r with
  | error e => exact hsound
  | ok object =>
      simp only [Except.mapError]
      cases contentOf deployment vault.files object with
      | error e => exact hsound
      | ok file =>
          dsimp only
          cases requireTenantPermission session object.tenantId tenantEvidenceRead <;> exact hsound

/-- One request keeps files and references in their places. -/
theorem Sound.step {deployment : Deployment} {vault : Vault} (h : Sound deployment.fs vault)
    {event : EvidenceEvent} (hharmless : event.Harmless deployment.fs vault) :
    Sound deployment.fs (stepEvidence deployment vault event) := by
  cases event with
  | register session principalType request evidenceObjectId =>
      exact h.register session principalType request evidenceObjectId hharmless
  | upload session principalType request evidenceObjectId =>
      exact h.upload session principalType request evidenceObjectId
  | content session evidenceObjectId => exact h.content session evidenceObjectId
  | meanwhile named =>
      refine ⟨?_, h.files, h.references⟩
      intro name hname
      obtain ⟨intent, hintent, rfl⟩ := List.mem_map.mp hname
      exact ⟨named.tenantHex intent hintent, named.intentHex intent hintent⟩

theorem sound_run (deployment : Deployment) (named : NamedDb) (events : List EvidenceEvent)
    (hharmless : ∀ before event after, events = before ++ event :: after →
      event.Harmless deployment.fs (runEvidence deployment named before)) :
    Sound deployment.fs (runEvidence deployment named events) := by
  induction events using List.reverseRecOn with
  | nil =>
      refine ⟨?_, List.forall_mem_nil _, List.forall_mem_nil _⟩
      intro name hname
      obtain ⟨intent, hintent, rfl⟩ := List.mem_map.mp hname
      exact ⟨named.tenantHex intent hintent, named.intentHex intent hintent⟩
  | append_singleton before event ih =>
      have hbefore := ih fun before' event' after hsplit =>
        hharmless before' event' (after ++ [event]) (by simp [hsplit])
      have hstep := hbefore.step (hharmless before event [] rfl)
      unfold runEvidence at hstep ⊢
      rw [List.foldl_append]
      exact hstep

/-- **Where every registration that is stored with a filesystem reference stays out of the
directories of other tenants and Action Intents, downloads hand out the files of the object's own
tenant and Action Intent, to sessions that may read that tenant's evidence.** -/
theorem harmless_isolated (deployment : Deployment) (named : NamedDb)
    (events : List EvidenceEvent)
    (hharmless : ∀ before event after, events = before ++ event :: after →
      event.Harmless deployment.fs (runEvidence deployment named before)) :
    ∀ before after, events = before ++ after →
      Isolated deployment (runEvidence deployment named before) := by
  rintro before after rfl
  exact (sound_run deployment named before fun before' event after' hsplit =>
    hharmless before' event (after' ++ after) (by simp [hsplit])).isolated

/-! ### A host without symbolic links -/

/-- One component of a path: two dots go up. -/
def ascend (path : Path) (name : String) : Path :=
  if name = ".." then path.dropLast else path ++ [name]

theorem foldl_ascend (names : List String) :
    ∀ path : Path, (∀ name ∈ names, name ≠ "..") → names.foldl ascend path = path ++ names := by
  induction names with
  | nil => simp
  | cons name rest ih =>
      intro path hnames
      have hname : ascend path name = path ++ [name] := if_neg (hnames name (by simp))
      rw [List.foldl_cons, hname, ih _ fun n hn => hnames n (List.mem_cons_of_mem _ hn)]
      simp

/-- A file system in which paths mean what they say. -/
def plainFilesystem : Filesystem where
  root := ["srv", "evidence"]
  resolve path :=
    if path.any fun name => name.toList.contains '\x00' then
      .error "lstat: embedded null character in path"
    else .ok (path.foldl ascend [])
  resolve_below := by
    intro names hnames
    have hnull : ((["srv", "evidence"] ++ names).any
        fun name => name.toList.contains '\x00') = false := by
      have hbelow : (names.any fun name => name.toList.contains '\x00') = false := by
        rw [List.any_eq_false]
        intro name hname
        simpa using (hnames name hname).2
      rw [List.any_append, hbelow]
      decide
    rw [if_neg (ne_true_of_eq_false hnull), List.foldl_append]
    exact congrArg Except.ok (foldl_ascend names _ fun name hname => (hnames name hname).1.notUp)

/-- A deployment on that file system, without an object store. -/
def plainDeployment : Deployment := ⟨plainFilesystem, false⟩

/-! ### Two tenants on one root -/

/-- The id that is one digit over and over. -/
def idOf (digit : Char) (hdigit : digit.isDigit || ('a' ≤ digit && digit ≤ 'f')) : HexId where
  text := String.ofList (List.replicate 32 digit)
  length := by simp
  digits := by
    intro c hc
    rw [String.toList_ofList] at hc
    rw [List.eq_of_mem_replicate hc]
    exact hdigit

/-- The id of the first tenant. -/
def idA : HexId := idOf 'a' (by decide)

/-- The id of the second tenant. -/
def idB : HexId := idOf 'b' (by decide)

/-- The id of an uploaded object. -/
def idC : HexId := idOf 'c' (by decide)

/-- The id of a registered object. -/
def idD : HexId := idOf 'd' (by decide)

/-- The Action Intent of a tenant, which has the tenant's own id. -/
def tenantIntent (tenant : HexId) : ActionIntentRecord where
  actionIntentRecordId := tenant.text
  tenantId := tenant.text
  policyId := none
  policyVersion := none
  submissionId := "submission"
  idempotencyKey := tenant.text
  requestedBy := ⟨"user", "requester"⟩
  workflowKey := "payments"
  externalActionIntentId := .str "ext"
  contractVersionRef := "v1"
  contractValidationStatus := .valid
  actionIntentDigest := "digest"
  financeIndex := []
  approvalState := .notStarted
  evidenceState := .notRequired
  executionState := .notRequested
  approvalRequirement := none
  evidenceRequirement := none
  decisionState := .allow
  decisionReason := ""
  matchedRuleId := none
  createdAt := 0

/-- Two tenants with an Action Intent each. -/
def twoTenants : NamedDb where
  db := { Db.empty 0 with
    intents := ⟨[tenantIntent idA, tenantIntent idB], by decide⟩ }
  tenantHex := by
    intro intent hintent
    simp only [List.mem_cons, List.not_mem_nil, or_false] at hintent
    rcases hintent with rfl | rfl
    · exact ⟨idA, rfl⟩
    · exact ⟨idB, rfl⟩
  intentHex := by
    intro intent hintent
    simp only [List.mem_cons, List.not_mem_nil, or_false] at hintent
    rcases hintent with rfl | rfl
    · exact ⟨idA, rfl⟩
    · exact ⟨idB, rfl⟩

/-- An analyst with the evidence permissions of one tenant. -/
def analystOf (tenant : HexId) : AuthenticatedSession :=
  ⟨"analyst", false, [(tenant.text, [tenantEvidenceRead, tenantEvidenceWrite])]⟩

/-- The upload of a document for a tenant's intent. -/
def uploadFor (tenant : HexId) (evidenceObjectId : HexId) : EvidenceEvent :=
  .upload (analystOf tenant) "user"
    { tenantId := tenant.text
      actionIntentRecordId := tenant.text
      filename := some "wire-proof.pdf"
      payload := [1, 2, 3] } evidenceObjectId

/-- The registration, for a tenant's intent, of a file that is there. -/
def registerFor (tenant : HexId) (storageRef : String) (evidenceObjectId : HexId) :
    EvidenceEvent :=
  .register (analystOf tenant) "user"
    { tenantId := tenant.text
      actionIntentRecordId := tenant.text
      evidenceType := .document
      storageMode := .filesystem
      storageRef := storageRef } evidenceObjectId

/-- A tenant registers its own upload once more, and tries to register that of the other tenant for
the other's intent, which it may not. -/
def ownRegistrations : List EvidenceEvent :=
  [uploadFor idA idC, registerFor idA (Path.render [idA.text, idA.text, idC.text ++ ".pdf"]) idD,
    .register (analystOf idA) "user"
      { tenantId := idB.text
        actionIntentRecordId := idB.text
        evidenceType := .document
        storageMode := .filesystem
        storageRef := Path.render [idA.text, idA.text, idC.text ++ ".pdf"] } idD]

/-- Only the registration that is stored need stay in the tenant's own directory. -/
theorem harmless_isolated_own :
    Isolated plainDeployment (runEvidence plainDeployment twoTenants ownRegistrations) := by
  refine harmless_isolated plainDeployment twoTenants ownRegistrations ?_ _ []
    (List.append_nil _).symm
  intro before event after hsplit
  have hmem : event ∈ ownRegistrations := by
    rw [hsplit]
    exact List.mem_append_right _ List.mem_cons_self
  simp only [ownRegistrations, List.mem_cons, List.not_mem_nil, or_false] at hmem
  rcases hmem with rfl | rfl | rfl
  · trivial
  · intro _ _
    refine ownReference_render _ ?_
    intro name hname
    simp only [List.mem_cons, List.not_mem_nil, or_false] at hname
    rcases hname with rfl | rfl | rfl
    · exact idA.isName
    · exact idA.isName
    · exact idC.isName_append (by decide) (by decide)
  · -- the session has no permission in the tenant, so nothing is stored
    have hrefused : (analystOf idA).hasTenantPermission idB.text tenantEvidenceWrite = false := by
      decide
    intro hstored
    rw [registerEndpoint_refused] at hstored
    · exact absurd rfl hstored
    · exact hrefused

/-- The names under which the second tenant's upload is stored. -/
def foreignNames : List String := [idB.text, idB.text, idC.text ++ ".pdf"]

theorem foreignNames_isName :
    ∀ name ∈ foreignNames, Path.IsName name ∧ '\x00' ∉ name.toList := by
  intro name hname
  simp only [foreignNames, List.mem_cons, List.not_mem_nil, or_false] at hname
  rcases hname with rfl | rfl | rfl
  · exact idB.isName
  · exact idB.isName
  · exact idC.isName_append (by decide) (by decide)

theorem foreignNames_length : (Path.render foreignNames).length = 102 := by
  simp [Path.render, foreignNames, String.intercalate_cons_cons, String.intercalate_singleton,
    String.length_append, idB.length, idC.length, show ".pdf".length = 4 from rfl,
    show "/".length = 1 from rfl]

/-- The registration of that file for the first tenant. -/
def foreignRequest : EvidenceRegisterRequest where
  tenantId := idA.text
  actionIntentRecordId := idA.text
  evidenceType := .document
  storageMode := .filesystem
  storageRef := Path.render foreignNames

theorem foreignRequest_valid : foreignRequest.isValid = true := by
  have hid : idA.text.length = 32 := idA.length
  simp [EvidenceRegisterRequest.isValid, foreignRequest, hid, foreignNames_length]

/-- The vault after the upload. -/
def uploaded : Vault :=
  stepEvidence plainDeployment ⟨{ twoTenants.db with evidence := .empty }, []⟩ (uploadFor idB idC)

/-- The vault after the upload and the registration. -/
def registered : Vault :=
  (uploaded.call (Evidence.registerEvidence
    { tenantId := idA.text
      actionIntentRecordId := idA.text
      approvalRequestId := none
      evidenceType := .document
      originalFilename := none
      mediaType := none
      uploadedBy := ⟨"user", "analyst"⟩
      evidenceMetadata := []
      expiresAt := none }
    { storageMode := .filesystem
      storageRef := Path.render foreignNames
      contentDigest := none
      sizeBytes := none } idD.text)).2

theorem run_registered : runEvidence plainDeployment twoTenants
    [uploadFor idB idC, registerFor idA (Path.render foreignNames) idD] = registered := by
  have hrequest : registerFor idA (Path.render foreignNames) idD
      = .register (analystOf idA) "user" foreignRequest idD := rfl
  have hpermitted :
      (analystOf idA).hasTenantPermission foreignRequest.tenantId tenantEvidenceWrite = true := by
    decide
  rw [runEvidence, List.foldl_cons, List.foldl_cons, List.foldl_nil, hrequest,
    stepEvidence_register, registerEndpoint_granted foreignRequest_valid hpermitted, registered,
    uploaded, foreignRequest]
  rfl

/-- What one tenant uploads another registers and downloads. -/
theorem foreign_upload_served : ¬ Isolated plainDeployment
    (runEvidence plainDeployment twoTenants
      [uploadFor idB idC,
        registerFor idA (Path.render [idB.text, idB.text, idC.text ++ ".pdf"]) idD]) := by
  intro h
  rw [show [idB.text, idB.text, idC.text ++ ".pdf"] = foreignNames from rfl, run_registered] at h
  obtain ⟨object, hfound, hmode, href, htenant⟩ : ∃ object,
      registered.call (getEvidence idD.text) = (.ok object, registered)
        ∧ object.storageMode = .filesystem ∧ object.storageRef = Path.render foreignNames
        ∧ object.tenantId = idA.text := ⟨_, rfl, rfl, rfl, rfl⟩
  obtain ⟨file, hfile, howner⟩ : ∃ file,
      fileAt registered.files (plainFilesystem.root ++ foreignNames) = some file
        ∧ file.tenantId = idB.text := ⟨_, rfl, rfl⟩
  have hopen : contentOf plainDeployment registered.files object = .ok file := by
    rw [contentOf, hmode]
    exact openContent_below plainFilesystem (List.cons_ne_nil _ _) foreignNames_isName href hfile
  have hread : (analystOf idA).hasTenantPermission object.tenantId tenantEvidenceRead = true := by
    rw [htenant]
    decide
  have hserved := contentEndpoint_granted hfound hopen hread
  have hpermitted := h.permitted (analystOf idA) idD.text object file registered hserved
  rw [howner] at hpermitted
  revert hpermitted
  decide

end ControlPlane.EvidenceContent
