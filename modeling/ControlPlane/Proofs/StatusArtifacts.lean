/-
When the registry has an artifact to serve.

The lookup takes the publication of the issuer's version that was completed last, and serves its
artifact unless that has expired.  Clock and expiry are both in whole seconds, so the row and the
artifact agree on when that is.  But a publication that waited for its signature may complete
after one that was asked for later, and expire before it: then nothing is served although the
other artifact lives on.
-/
import ControlPlane.Lib.Sequential
import ControlPlane.Proofs.IssuerRegistry

namespace ControlPlane.IssuerRegistry

/-- A completed publication of the version that the issuer has. -/
structure Completed (db : RegistryDb) (issuer : IssuerRegistryRecord)
    (publication : IssuerStatusPublicationRecord) : Prop where
  row : publication ∈ db.publications.rows
  registryId : publication.issuerRegistryId = issuer.registryId
  version : publication.statusVersion = issuer.statusVersion
  status : publication.status = .completed

/-- No publication of the version was completed later, to the second. -/
structure LastCompleted (db : RegistryDb) (issuer : IssuerRegistryRecord)
    (publication : IssuerStatusPublicationRecord) : Prop where
  completed : Completed db issuer publication
  last : ∀ other, Completed db issuer other →
    other.completedAt.getD 0 ≤ publication.completedAt.getD 0

/-- The publication has this artifact, which by its own account has not expired. -/
def Lives (db : RegistryDb) (publication : IssuerStatusPublicationRecord)
    (artifact : IssuerStatusArtifact) : Prop :=
  publication.statusArtifact = some artifact ∧ db.now < artifact.statement.expiresAt

/-- What is completed later expires no earlier. -/
def InOrder (db : RegistryDb) (issuer : IssuerRegistryRecord) : Prop :=
  ∀ p q, Completed db issuer p → Completed db issuer q →
    p.completedAt.getD 0 ≤ q.completedAt.getD 0 → p.expiresAt.getD 0 ≤ q.expiresAt.getD 0

section
variable {db : RegistryDb} {issuer : IssuerRegistryRecord}

theorem mem_completed {publication : IssuerStatusPublicationRecord} :
    publication ∈ (db.publications.rows.filter fun p =>
        p.issuerRegistryId = issuer.registryId && p.statusVersion = issuer.statusVersion
          && p.status = .completed) ↔ Completed db issuer publication := by
  rw [List.mem_filter]
  simp only [Bool.and_eq_true, decide_eq_true_eq]
  constructor
  · rintro ⟨hrow, ⟨hregistry, hversion⟩, hstatus⟩
    exact ⟨hrow, hregistry, hversion, hstatus⟩
  · rintro ⟨hrow, hregistry, hversion, hstatus⟩
    exact ⟨hrow, ⟨hregistry, hversion⟩, hstatus⟩

/-- The lookup finds nothing only where nothing is completed. -/
theorem currentPublication_eq_none :
    currentPublication issuer db = none ↔ ∀ p, ¬ Completed db issuer p := by
  unfold currentPublication
  rw [List.head?_eq_none_iff]
  constructor
  · intro hnil p hp
    have hlength := congrArg List.length hnil
    rw [List.length_mergeSort, List.length_nil, List.length_eq_zero_iff] at hlength
    have hmem := mem_completed.mpr hp
    rw [hlength] at hmem
    exact absurd hmem List.not_mem_nil
  · intro hnone
    rw [List.eq_nil_iff_forall_not_mem]
    intro p hp
    rw [List.mem_mergeSort] at hp
    exact hnone p (mem_completed.mp hp)

/-- **The lookup finds a publication that was completed last.** -/
theorem currentPublication_last {publication : IssuerStatusPublicationRecord}
    (h : currentPublication issuer db = some publication) :
    LastCompleted db issuer publication := by
  unfold currentPublication at h
  obtain ⟨rest, hsorted⟩ := List.head?_eq_some_iff.mp h
  have hmem : ∀ p, p ∈ publication :: rest ↔ Completed db issuer p := by
    intro p
    rw [← hsorted, List.mem_mergeSort, mem_completed]
  refine ⟨(hmem publication).mp List.mem_cons_self, fun other hother => ?_⟩
  have hpairwise := @List.pairwise_mergeSort IssuerStatusPublicationRecord
    (fun a b => decide (b.completedAt.getD 0 ≤ a.completedAt.getD 0))
    (fun a b c hab hbc => by
      simp only [decide_eq_true_eq] at *
      exact Nat.le_trans hbc hab)
    (fun a b => by
      simp only [Bool.or_eq_true, decide_eq_true_eq]
      exact Nat.le_total _ _)
    (db.publications.rows.filter fun p =>
      p.issuerRegistryId = issuer.registryId && p.statusVersion = issuer.statusVersion
        && p.status = .completed)
  rw [hsorted] at hpairwise
  rcases List.mem_cons.mp ((hmem other).mpr hother) with rfl | hrest
  · exact Nat.le_refl _
  · exact of_decide_eq_true ((List.pairwise_cons.mp hpairwise).1 other hrest)

/-- An expiry in whole seconds is past on the service's clock exactly when it is past. -/
theorem WholeSeconds.le_clock {statement : IssuerStatusStatement} (h : WholeSeconds statement)
    (db : RegistryDb) : statement.expiresAt ≤ db.clock ↔ statement.expiresAt ≤ db.now := by
  constructor
  · exact fun hle => Nat.le_trans hle (Time.truncate_le db.now)
  · intro hle
    rw [← h]
    exact Nat.mul_le_mul_right _ (Nat.div_le_div_right hle)

/-- The lookup, where there is a publication to look at. -/
theorem findStatusArtifact_found {service : IssuerRegistryService} {query : ArtifactQuery}
    {publication : IssuerStatusPublicationRecord} (hinv : RegistryInv service db)
    (hissuer : queriedIssuer query db = .ok issuer)
    (hcurrent : currentPublication issuer db = some publication) :
    ∃ artifact, publication.statusArtifact = some artifact ∧
      publication.expiresAt = some artifact.statement.expiresAt ∧
      findStatusArtifact query db =
        if db.now < artifact.statement.expiresAt then .ok (artifact, db)
        else .error (.configuration "the current issuer-status artifact has expired") := by
  have hlast := (currentPublication_last hcurrent).completed
  obtain ⟨artifact, completedAt, hartifact, hexpires, -, hwhole⟩ :=
    (hinv publication hlast.row).completed hlast.status
  refine ⟨artifact, hartifact, hexpires, ?_⟩
  have hserved : servedArtifact (currentPublication issuer db)
      = some (artifact, artifact.statement.expiresAt) := by
    rw [hcurrent]
    unfold servedArtifact
    simp [hartifact, hexpires]
  unfold findStatusArtifact
  rw [hissuer]
  simp only [hserved, bind, Except.bind]
  show (if artifact.statement.expiresAt ≤ db.clock then _ else _) = _
  by_cases hlive : db.now < artifact.statement.expiresAt
  · rw [if_pos hlive, if_neg]
    intro hpast
    exact Nat.not_le.mpr hlive ((hwhole.le_clock db).mp hpast)
  · rw [if_neg hlive, if_pos ((hwhole.le_clock db).mpr (Nat.not_lt.mp hlive))]

/-- What the lookup answers. -/
theorem findStatusArtifact_iff {service : IssuerRegistryService} (hinv : RegistryInv service db)
    (query : ArtifactQuery) (artifact : IssuerStatusArtifact) (db' : RegistryDb) :
    findStatusArtifact query db = .ok (artifact, db') ↔
      db' = db ∧ ∃ issuer publication, queriedIssuer query db = .ok issuer ∧
        currentPublication issuer db = some publication ∧ Lives db publication artifact := by
  constructor
  · intro h
    obtain ⟨rfl, issuer, publication, hissuer, hcurrent, hartifact⟩ := findStatusArtifact_ok h
    refine ⟨rfl, issuer, publication, hissuer, hcurrent, hartifact, ?_⟩
    obtain ⟨found, hfound, -, hresult⟩ := findStatusArtifact_found hinv hissuer hcurrent
    obtain rfl := Option.some.inj (hartifact.symm.trans hfound)
    by_contra hpast
    rw [hresult, if_neg hpast] at h
    cases h
  · rintro ⟨rfl, issuer, publication, hissuer, hcurrent, hartifact, hlive⟩
    obtain ⟨found, hfound, -, hresult⟩ := findStatusArtifact_found hinv hissuer hcurrent
    obtain rfl := Option.some.inj (hartifact.symm.trans hfound)
    rw [hresult, if_pos hlive]

/-- Where what is completed later expires no earlier, the lookup misses no artifact that lives. -/
theorem findStatusArtifact_inOrder {service : IssuerRegistryService} {query : ArtifactQuery}
    (hinv : RegistryInv service db) (hissuer : queriedIssuer query db = .ok issuer)
    (horder : InOrder db issuer) :
    (∃ artifact db', findStatusArtifact query db = .ok (artifact, db')) ↔
      ∃ p artifact, Completed db issuer p ∧ Lives db p artifact := by
  constructor
  · rintro ⟨artifact, db', h⟩
    obtain ⟨-, found, publication, hfound, hcurrent, hlives⟩ :=
      (findStatusArtifact_iff hinv query artifact db').mp h
    obtain rfl := Except.ok.inj (hissuer.symm.trans hfound)
    exact ⟨publication, artifact, (currentPublication_last hcurrent).completed, hlives⟩
  · rintro ⟨p, artifact, hp, hartifact, hlive⟩
    cases hcurrent : currentPublication issuer db with
    | none => exact absurd hp (currentPublication_eq_none.mp hcurrent p)
    | some publication =>
        have hlast := currentPublication_last hcurrent
        obtain ⟨found, hfound, hexpires, hresult⟩ := findStatusArtifact_found hinv hissuer hcurrent
        have hlater := horder p publication hp hlast.completed (hlast.last p hp)
        obtain ⟨own, _, hown, hpexpires, -, -⟩ := (hinv p hp.row).completed hp.status
        obtain rfl := Option.some.inj (hartifact.symm.trans hown)
        rw [hpexpires, hexpires] at hlater
        have hnow : db.now < found.statement.expiresAt := Nat.lt_of_lt_of_le hlive hlater
        refine ⟨found, db, ?_⟩
        rw [hresult, if_pos hnow]

end

theorem alone_latestStatusArtifact (query : ArtifactQuery) (db db' : RegistryDb)
    (artifact : IssuerStatusArtifact) :
    (latestStatusArtifact query).alone db = some (.ok artifact, db')
      ↔ findStatusArtifact query db = .ok (artifact, db') := by
  unfold latestStatusArtifact Prog.transaction Prog.transactionWhen Prog.alone
  rw [if_pos rfl]
  unfold Prog.commit Prog.outcome
  cases hfind : findStatusArtifact query db with
  | error e =>
      show some (Except.error e, db) = some (.ok artifact, db') ↔ _
      constructor <;> intro h <;> cases h
  | ok found =>
      show some (Except.ok found.1, found.2) = some (.ok artifact, db') ↔ _
      constructor
      · intro h
        obtain ⟨hok, rfl⟩ := Prod.mk.inj (Option.some.inj h)
        obtain rfl := Except.ok.inj hok
        rfl
      · intro h
        obtain rfl := Except.ok.inj h
        rfl

/-! ### Every run -/

/-- **When the registry serves an artifact, in any interleaving of its calls.**  It serves the
artifact of the publication that the lookup finds, exactly when that has not expired by its own
account; the lookup finds one that was completed last, where any is completed.  An artifact that
lives is missed only where what was completed later expires earlier. -/
theorem latestStatusArtifact_sound (dumps : Json → Option Bytes) (service : IssuerRegistryService)
    (start : Time) (events : List (Event RegistryCall Time)) :
    let db := (runRegistry dumps service start events).store
    (∀ query artifact db', (latestStatusArtifact query).alone db = some (.ok artifact, db') ↔
      db' = db ∧ ∃ issuer publication, queriedIssuer query db = .ok issuer ∧
        currentPublication issuer db = some publication ∧ Lives db publication artifact) ∧
    (∀ issuer publication, currentPublication issuer db = some publication →
      LastCompleted db issuer publication) ∧
    (∀ issuer, currentPublication issuer db = none ↔ ∀ p, ¬ Completed db issuer p) ∧
    ∀ query issuer, queriedIssuer query db = .ok issuer → InOrder db issuer →
      ((∃ artifact db', (latestStatusArtifact query).alone db = some (.ok artifact, db')) ↔
        ∃ p artifact, Completed db issuer p ∧ Lives db p artifact) := by
  intro db
  have hinv : RegistryInv service db := (runRegistry_sound dumps service start events).inv
  refine ⟨?_, fun _ _ => currentPublication_last, fun _ => currentPublication_eq_none, ?_⟩
  · intro query artifact db'
    rw [alone_latestStatusArtifact, findStatusArtifact_iff hinv]
  · intro query issuer hissuer horder
    simp only [alone_latestStatusArtifact]
    exact findStatusArtifact_inOrder hinv hissuer horder

/-! Two publications, of which the one asked for first completes last. -/

theorem service_nonempty : "service" ≠ "" := by decide

theorem unnamed : (none : Option String) ≠ some "" := by simp

/-- Artifacts live for ten seconds. -/
def briefService : IssuerRegistryService where
  statusAuthority := ⟨"service", "registry", none, service_nonempty, by decide, unnamed⟩
  artifactTtlSeconds := 10
  maxStalenessSeconds := 10
  ttlPositive := by decide
  ttlWithinStaleness := by decide

/-- Who registers issuers and publishes their status. -/
def operator : IssuerRegistryActor :=
  ⟨"operator", "op-1", [registerPermission, statusPublishPermission]⟩

/-- A signer that signs everything. -/
def willingSigner : IssuerStatusSigner := fun _ _ => .ok ⟨"key-1", List.replicate 64 0, "hsm-1"⟩

/-- The publication for the first issuer. -/
def publishOne (publicationId : String) : Event RegistryCall Time :=
  .start (.publish "issuer-1" operator (some willingSigner) publicationId)

/-- A publication is asked for and dated; five seconds later another is, and completes; a second
after that the first completes. -/
def overtaken : List (Event RegistryCall Time) :=
  [.start (.register [("type", .str "bank"), ("id", .str "bank-1")] operator none "issuer-1"),
    .resume 0, .resume 0, .resume 0,
    publishOne "first", .resume 1, .resume 1, .environment (5 * Time.second),
    publishOne "second", .resume 2, .resume 2, .resume 2, .environment (6 * Time.second),
    .resume 1]

/-- The query for its artifact. -/
def queryOne : ArtifactQuery := { registryId := some "issuer-1" }

/-- Of a publication, what the lookup depends on. -/
def timing (p : IssuerStatusPublicationRecord) : (String × Nat × PublicationStatus) × Nat ×
    Option Time :=
  ((p.issuerRegistryId, p.statusVersion, p.status), p.completedAt.getD 0,
    p.statusArtifact.map (·.statement.expiresAt))

/-- The issuer and its publications, from what a run has left. -/
theorem completed_of_timing (db : RegistryDb) (completions : List (Nat × Time))
    (hissuer : (db.issuers.get? "issuer-1").map (fun r => (r.registryId, r.statusVersion))
      = some ("issuer-1", 1))
    (hrows : db.publications.rows.map timing = completions.map fun c =>
      (("issuer-1", 1, .completed), c.1, some c.2)) :
    ∃ issuer, queriedIssuer queryOne db = .ok issuer ∧
      (∀ c ∈ completions, ∃ p artifact, Completed db issuer p ∧ p.completedAt.getD 0 = c.1 ∧
        p.statusArtifact = some artifact ∧ artifact.statement.expiresAt = c.2) ∧
      ∀ p, Completed db issuer p → ∃ c ∈ completions, p.completedAt.getD 0 = c.1 ∧
        p.statusArtifact.map (·.statement.expiresAt) = some c.2 := by
  obtain ⟨issuer, hget, hpair⟩ := Option.map_eq_some_iff.mp hissuer
  obtain ⟨hregistry, hversion⟩ := Prod.mk.inj hpair
  refine ⟨issuer, ?_, ?_, ?_⟩
  · show db.lockedRecord "issuer-1" = _
    unfold RegistryDb.lockedRecord
    rw [hget]
  · intro c hc
    have hmem : ((("issuer-1", 1, .completed), c.1, some c.2) :
        (String × Nat × PublicationStatus) × Nat × Option Time)
          ∈ db.publications.rows.map timing := by
      rw [hrows]
      exact List.mem_map_of_mem hc
    obtain ⟨p, hp, htiming⟩ := List.mem_map.mp hmem
    unfold timing at htiming
    simp only [Prod.mk.injEq] at htiming
    obtain ⟨⟨hid, hpversion, hstatus⟩, hcompleted, hexpires⟩ := htiming
    obtain ⟨artifact, hartifact, hexpiry⟩ := Option.map_eq_some_iff.mp hexpires
    exact ⟨p, artifact, ⟨hp, hid.trans hregistry.symm, hpversion.trans hversion.symm, hstatus⟩,
      hcompleted, hartifact, hexpiry⟩
  · intro p hp
    have hmem := List.mem_map_of_mem (f := timing) hp.row
    rw [hrows] at hmem
    obtain ⟨c, hc, htiming⟩ := List.mem_map.mp hmem
    unfold timing at htiming
    simp only [Prod.mk.injEq] at htiming
    exact ⟨c, hc, htiming.2.1.symm, htiming.2.2.symm⟩

/-- The registry once the overtaken publication has ended. -/
def runOvertaken : RegistryDb :=
  (runRegistry (fun _ => some []) briefService 0
    (overtaken ++ [.environment (12 * Time.second)])).store

/-- The first publication has expired after twelve seconds.  It completed last, so the second is
not served, which lives for three more. -/
theorem latestStatusArtifact_refuses :
    ∃ issuer, queriedIssuer queryOne runOvertaken = .ok issuer ∧
      (∃ p artifact, Completed runOvertaken issuer p ∧ Lives runOvertaken p artifact) ∧
      ¬ ∃ artifact db', (latestStatusArtifact queryOne).alone runOvertaken
        = some (.ok artifact, db') := by
  obtain ⟨issuer, hissuer, hthere, honly⟩ := completed_of_timing runOvertaken
    [(6 * Time.second, 10 * Time.second), (5 * Time.second, 15 * Time.second)]
    (by decide) (by decide)
  have hnow : runOvertaken.now = 12 * Time.second := by decide
  have hinv : RegistryInv briefService runOvertaken :=
    (runRegistry_sound (fun _ => some []) briefService 0 _).inv
  refine ⟨issuer, hissuer, ?_, ?_⟩
  · obtain ⟨p, artifact, hp, -, hartifact, hexpires⟩ :=
      hthere (5 * Time.second, 15 * Time.second) (by simp)
    refine ⟨p, artifact, hp, hartifact, ?_⟩
    rw [hexpires, hnow]
    decide
  · rintro ⟨artifact, db', halone⟩
    rw [alone_latestStatusArtifact, findStatusArtifact_iff hinv] at halone
    obtain ⟨-, found, p, hfound, hcurrent, hartifact, hlive⟩ := halone
    obtain rfl := Except.ok.inj (hissuer.symm.trans hfound)
    have hlast := currentPublication_last hcurrent
    obtain ⟨first, _, hfirst, hcompleted, -, -⟩ :=
      hthere (6 * Time.second, 10 * Time.second) (by simp)
    have hlater := hlast.last first hfirst
    obtain ⟨c, hc, hpcompleted, hexpires⟩ := honly p hlast.completed
    rw [hartifact] at hexpires
    have hexpiry : artifact.statement.expiresAt = c.2 := Option.some.inj hexpires
    rw [hcompleted, hpcompleted] at hlater
    rw [hexpiry, hnow] at hlive
    simp only [List.mem_cons, List.not_mem_nil, or_false] at hc
    rcases hc with rfl | rfl
    · exact absurd hlive (by decide)
    · exact absurd hlater (by decide)

/-- Only the second of them. -/
def undisturbed : List (Event RegistryCall Time) :=
  [.start (.register [("type", .str "bank"), ("id", .str "bank-1")] operator none "issuer-1"),
    .resume 0, .resume 0, .resume 0, .environment (5 * Time.second),
    publishOne "second", .resume 1, .resume 1, .resume 1, .environment (12 * Time.second)]

theorem latestStatusArtifact_sound_undisturbed :
    ∃ artifact db', (latestStatusArtifact queryOne).alone
      (runRegistry (fun _ => some []) briefService 0 undisturbed).store
        = some (.ok artifact, db') := by
  obtain ⟨issuer, hissuer, hthere, honly⟩ := completed_of_timing
    (runRegistry (fun _ => some []) briefService 0 undisturbed).store
    [(5 * Time.second, 15 * Time.second)] (by decide) (by decide)
  obtain ⟨-, -, -, hserves⟩ :=
    latestStatusArtifact_sound (fun _ => some []) briefService 0 undisturbed
  obtain ⟨p, artifact, hp, -, hartifact, hexpires⟩ :=
    hthere (5 * Time.second, 15 * Time.second) List.mem_cons_self
  have hinv := (runRegistry_sound (fun _ => some []) briefService 0 undisturbed).inv
  have hexpiry : ∀ q, Completed
      (runRegistry (fun _ => some []) briefService 0 undisturbed).store issuer q →
        q.expiresAt = some (15 * Time.second) := by
    intro q hq
    obtain ⟨own, _, hown, hrow, -, -⟩ := (hinv q hq.row).completed hq.status
    obtain ⟨c, hc, -, hstated⟩ := honly q hq
    obtain rfl := List.mem_singleton.mp hc
    rw [hown] at hstated
    exact hrow.trans hstated
  refine (hserves queryOne issuer hissuer ?_).mpr ⟨p, artifact, hp, hartifact, ?_⟩
  · intro p q hp hq _
    rw [hexpiry p hp, hexpiry q hq]
  · rw [hexpires]
    decide

end ControlPlane.IssuerRegistry
