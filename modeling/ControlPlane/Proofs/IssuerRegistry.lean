/-
What the issuer registry serves.

Every artifact is tied to the version of the issuer's row that its publication was asked
for at, and a version has one standing.  `Evolves` is what any window may do to the
issuers: a version may grow, a standing changes only together with its version, and a
revoked issuer stays revoked.  `PublicationOk` is what a publication keeps through all of
it, from the moment it is asked for: its version is not later than the issuer's, and when
it is the issuer's, so is its standing.  A publication that completes late completes with
an old version, and the lookup asks for the current one.
-/
import ControlPlane.Lib.Except
import ControlPlane.Services.IssuerRegistry

namespace ControlPlane.IssuerRegistry

/-- The constructor refuses the settings that no service has, and keeps the others. -/
theorem IssuerRegistryService.init_ok_iff {statusAuthority : Members}
    {artifactTtlSeconds maxStalenessSeconds : Int} {service : IssuerRegistryService} :
    IssuerRegistryService.init statusAuthority artifactTtlSeconds maxStalenessSeconds = .ok service ↔
      validateParty statusAuthority "status_authority" = .ok service.statusAuthority ∧
      artifactTtlSeconds = service.artifactTtlSeconds ∧
      maxStalenessSeconds = service.maxStalenessSeconds := by
  unfold IssuerRegistryService.init
  constructor
  · intro h
    split at h
    · cases h
    · split at h
      · cases h
      · split at h
        · cases h
        · obtain ⟨authority, hauthority, h⟩ := bind_eq_ok h
          cases h
          exact ⟨hauthority, (Int.toNat_of_nonneg (by omega)).symm,
            (Int.toNat_of_nonneg (by omega)).symm⟩
  · rintro ⟨hauthority, rfl, rfl⟩
    have hpositive := service.ttlPositive
    have hwithin := service.ttlWithinStaleness
    rw [dif_neg (by omega), if_neg (by omega), dif_neg (by omega), hauthority]
    rfl

/-! ### Versions -/

/-- Version `version` with standing `standing` is not later than the row. -/
def NotLater (version : Nat) (standing : IssuerStanding) (record : IssuerRegistryRecord) : Prop :=
  version < record.statusVersion
    ∨ version = record.statusVersion ∧ standing = record.standing

/-- How one issuer's row may move on. -/
structure Advances (old new : IssuerRegistryRecord) : Prop where
  /-- The standing changes only together with the version, which only grows. -/
  version : NotLater old.statusVersion old.standing new
  /-- A revoked issuer stays revoked. -/
  revoked : old.standing = .revoked → new.standing = .revoked

theorem NotLater.advance {version : Nat} {standing : IssuerStanding}
    {old new : IssuerRegistryRecord} (h : NotLater version standing old)
    (hadv : Advances old new) : NotLater version standing new := by
  have hnew := hadv.version
  unfold NotLater at *
  rcases h with hlt | ⟨rfl, rfl⟩
  · left
    omega
  · exact hnew

theorem Advances.refl (record : IssuerRegistryRecord) : Advances record record :=
  ⟨.inr ⟨rfl, rfl⟩, id⟩

theorem Advances.trans {a b c : IssuerRegistryRecord} (hab : Advances a b) (hbc : Advances b c) :
    Advances a c :=
  ⟨hab.version.advance hbc, fun h => hbc.revoked (hab.revoked h)⟩

/-- What may happen to the issuers from one point of a run to a later one. -/
def Evolves (db db' : RegistryDb) : Prop :=
  ∀ registryId old, db.issuers.get? registryId = some old →
    ∃ new, db'.issuers.get? registryId = some new ∧ Advances old new

theorem Evolves.of_issuers {db db' : RegistryDb} (h : db'.issuers = db.issuers) :
    Evolves db db' := by
  intro registryId old hold
  exact ⟨old, h ▸ hold, Advances.refl old⟩

theorem Evolves.refl (db : RegistryDb) : Evolves db db := Evolves.of_issuers rfl

theorem Evolves.trans {a b c : RegistryDb} (hab : Evolves a b) (hbc : Evolves b c) :
    Evolves a c := by
  intro registryId old hold
  obtain ⟨mid, hmid, hadv⟩ := hab registryId old hold
  obtain ⟨new, hnew, hadv'⟩ := hbc registryId mid hmid
  exact ⟨new, hnew, hadv.trans hadv'⟩

/-- The versions and standings an issuer has or had. -/
def Seen (db : RegistryDb) (registryId : String) (version : Nat) (standing : IssuerStanding) :
    Prop :=
  ∃ record, db.issuers.get? registryId = some record ∧ NotLater version standing record

theorem Seen.evolve {db db' : RegistryDb} {registryId : String} {version : Nat}
    {standing : IssuerStanding} (h : Seen db registryId version standing)
    (hev : Evolves db db') : Seen db' registryId version standing := by
  obtain ⟨record, hrecord, hversion⟩ := h
  obtain ⟨new, hnew, hadv⟩ := hev registryId record hrecord
  exact ⟨new, hnew, hversion.advance hadv⟩

/-! ### Publications -/

/-- The artifact lives as long as the service is set to. -/
def WellTimed (service : IssuerRegistryService) (statement : IssuerStatusStatement) : Prop :=
  statement.expiresAt = statement.issuedAt + service.artifactTtlSeconds * Time.second

/-- Its expiry is in whole seconds, which its text holds exactly. -/
def WholeSeconds (statement : IssuerStatusStatement) : Prop :=
  Time.truncate statement.expiresAt = statement.expiresAt

/-- What a publication keeps from the moment it is asked for. -/
structure PublicationOk (service : IssuerRegistryService) (db : RegistryDb)
    (publication : IssuerStatusPublicationRecord) : Prop where
  /-- It was asked for at a version the issuer had, with the standing of that version. -/
  seen : Seen db publication.issuerRegistryId publication.statusVersion publication.standing
  /-- Its artifact states that standing, for the lifetime the service is set to. -/
  artifact : ∀ a, publication.statusArtifact = some a →
    a.statement.status = publication.standing ∧ WellTimed service a.statement
  /-- When it is completed it has an artifact, and the row has the expiry of the artifact. -/
  completed : publication.status = .completed → ∃ a completedAt,
    publication.statusArtifact = some a ∧ publication.expiresAt = some a.statement.expiresAt ∧
      publication.completedAt = some completedAt ∧ WholeSeconds a.statement

/-- The invariant of the tables. -/
def RegistryInv (service : IssuerRegistryService) (db : RegistryDb) : Prop :=
  ∀ p ∈ db.publications.rows, PublicationOk service db p

section
variable {service : IssuerRegistryService} {db db' : RegistryDb}

theorem PublicationOk.evolve {publication : IssuerStatusPublicationRecord}
    (h : PublicationOk service db publication) (hev : Evolves db db') :
    PublicationOk service db' publication :=
  ⟨h.seen.evolve hev, h.artifact, h.completed⟩

/-- A window that adds no publication keeps the invariant. -/
theorem RegistryInv.evolve (h : RegistryInv service db) (hev : Evolves db db')
    (hpublications : db'.publications = db.publications) : RegistryInv service db' := by
  intro p hp
  rw [hpublications] at hp
  exact (h p hp).evolve hev

/-- A window that writes one publication keeps the invariant. -/
theorem RegistryInv.write (h : RegistryInv service db) {written : IssuerStatusPublicationRecord}
    (hwritten : PublicationOk service db written) (hev : Evolves db db')
    (hpublications : ∀ p ∈ db'.publications.rows, p = written ∨ p ∈ db.publications.rows) :
    RegistryInv service db' := by
  intro p hp
  rcases hpublications p hp with rfl | hold
  · exact hwritten.evolve hev
  · exact (h p hold).evolve hev

end

/-! ### What each window does -/

theorem lockedRecord_ok {db : RegistryDb} {registryId : String} {record : IssuerRegistryRecord}
    (h : db.lockedRecord registryId = .ok record) : db.issuers.get? registryId = some record := by
  unfold RegistryDb.lockedRecord at h
  cases hget : db.issuers.get? registryId with
  | none =>
      rw [hget] at h
      cases h
  | some found =>
      rw [hget] at h
      rw [Except.ok.inj h]

theorem insertIssuer_ok {issuer : Party} {actor : IssuerRegistryActor}
    {metadata : Option Members} {registryId : String} {db db' : RegistryDb}
    {record : IssuerRegistryRecord}
    (h : insertIssuer issuer actor metadata registryId db = .ok (record, db')) :
    Evolves db db' ∧ db'.publications = db.publications := by
  unfold insertIssuer at h
  by_cases htaken : (db.findByIdentity issuer.type issuer.id).isSome
  · rw [if_pos htaken] at h
    cases h
  · rw [if_neg htaken] at h
    cases hins : db.issuers.insert? (registeredRecord db issuer metadata registryId) with
    | none =>
        rw [hins] at h
        cases h
    | some issuers =>
        rw [hins] at h
        obtain ⟨rfl, rfl⟩ := Prod.mk.inj (Except.ok.inj h)
        refine ⟨?_, rfl⟩
        intro id old hold
        exact ⟨old, Table.get?_insert_of_some hins hold, Advances.refl old⟩

/-- A change of standing leaves the tables alone or writes the issuer's next version. -/
theorem changeStanding_ok {registryId reason permission : String} {target : IssuerStanding}
    {actor : IssuerRegistryActor} {db db' : RegistryDb} {answer : IssuerRegistryRecord × Bool}
    (h : changeStanding registryId target reason actor permission db = .ok (answer, db')) :
    Evolves db db' ∧ db'.publications = db.publications := by
  unfold changeStanding at h
  obtain ⟨-, -, h⟩ := bind_eq_ok h
  by_cases hblank : strip reason = ""
  · rw [if_pos hblank] at h
    cases h
  rw [if_neg hblank] at h
  obtain ⟨record, hrecord, h⟩ := bind_eq_ok h
  by_cases hrevoked : record.standing = .revoked ∧ target ≠ .revoked
  · rw [if_pos hrevoked] at h
    cases h
  rw [if_neg hrevoked] at h
  by_cases hsame : record.standing = target
  · rw [if_pos hsame] at h
    obtain ⟨-, rfl⟩ := Prod.mk.inj (Except.ok.inj h)
    exact ⟨Evolves.refl db, rfl⟩
  rw [if_neg hsame] at h
  obtain ⟨-, rfl⟩ := Prod.mk.inj (Except.ok.inj h)
  have hget := lockedRecord_ok hrecord
  have hkey : record.registryId = registryId := Table.key_of_get? hget
  refine ⟨?_, rfl⟩
  intro id old hold
  change ∃ new, (db.issuers.put (restanding db record target reason)).get? id = some new ∧ _
  have hold' : db.issuers.get? (restanding db record target reason).registryId = some record :=
    hkey ▸ hget
  rw [Table.get?_put hold']
  by_cases hid : id = (restanding db record target reason).registryId
  · rw [if_pos hid]
    obtain rfl : record = old := by
      rw [hid, hold'] at hold
      exact Option.some.inj hold
    refine ⟨_, rfl, .inl ?_, ?_⟩
    · exact Nat.lt_succ_self _
    · -- the only way out of revoked was refused above
      intro hold
      by_contra hother
      exact hrevoked ⟨hold, hother⟩
  · rw [if_neg hid]
    exact ⟨old, hold, Advances.refl old⟩

theorem reinstate_ok {registryId reason : String} {actor : IssuerRegistryActor}
    {db db' : RegistryDb} {answer : IssuerRegistryRecord × Bool}
    (h : reinstate registryId reason actor db = .ok (answer, db')) :
    Evolves db db' ∧ db'.publications = db.publications := by
  unfold reinstate at h
  obtain ⟨record, -, h⟩ := bind_eq_ok h
  by_cases hrevoked : record.standing = .revoked
  · rw [if_pos hrevoked] at h
    cases h
  · rw [if_neg hrevoked] at h
    exact changeStanding_ok h

/-- What the first window of a publication leaves: a publication of the issuer as it is. -/
theorem requestPublication_ok {service : IssuerRegistryService} {registryId publicationId : String}
    {actor : IssuerRegistryActor} {db db' : RegistryDb} {issuer : IssuerRegistryRecord}
    {publication : IssuerStatusPublicationRecord}
    (h : requestPublication service registryId actor publicationId db
      = .ok ((issuer, publication), db')) :
    db.issuers.get? registryId = some issuer ∧
      publication = requestedPublication service issuer actor publicationId ∧
        db'.issuers = db.issuers ∧
          ∀ p ∈ db'.publications.rows, p = publication ∨ p ∈ db.publications.rows := by
  unfold requestPublication at h
  obtain ⟨found, hfound, h⟩ := bind_eq_ok h
  by_cases hany : db.publications.rows.any fun p =>
      p.statusReference = (requestedPublication service found actor publicationId).statusReference
  · rw [if_pos hany] at h
    cases h
  rw [if_neg hany] at h
  cases hins : db.publications.insert? (requestedPublication service found actor publicationId) with
  | none =>
      rw [hins] at h
      cases h
  | some publications =>
      rw [hins] at h
      obtain ⟨hpair, rfl⟩ := Prod.mk.inj (Except.ok.inj h)
      obtain ⟨rfl, rfl⟩ := Prod.mk.inj hpair
      refine ⟨lockedRecord_ok hfound, rfl, rfl, ?_⟩
      intro p hp
      change p ∈ publications.rows at hp
      rw [(Table.insert?_eq_some hins).2, List.mem_append, List.mem_singleton] at hp
      exact hp.symm

/-- A statement names the standing the first window saw, for the lifetime that is set. -/
theorem publicationStatement_ok {service : IssuerRegistryService} {issuer : IssuerRegistryRecord}
    {publication : IssuerStatusPublicationRecord} {issuedAt : Time}
    {statement : IssuerStatusStatement}
    (h : publicationStatement service issuer publication issuedAt = .ok statement) :
    statement.status = issuer.standing ∧ WellTimed service statement ∧
      statement.issuedAt = issuedAt := by
  unfold publicationStatement buildIssuerStatusStatement at h
  by_cases hexpiry : issuedAt + service.artifactTtlSeconds * Time.second ≤ issuedAt
  · rw [if_pos hexpiry] at h
    cases h
  rw [if_neg hexpiry] at h
  obtain ⟨party, -, h⟩ := bind_eq_ok h
  obtain ⟨authority, -, h⟩ := bind_eq_ok h
  by_cases hreference : publication.statusReference = ""
  · rw [if_pos hreference] at h
    cases h
  rw [if_neg hreference] at h
  obtain rfl := Except.ok.inj h
  exact ⟨rfl, rfl, rfl⟩

/-- What is issued in whole seconds expires in whole seconds. -/
theorem WellTimed.wholeSeconds {service : IssuerRegistryService} {db : RegistryDb}
    {statement : IssuerStatusStatement} (h : WellTimed service statement)
    (hissued : statement.issuedAt = db.clock) : WholeSeconds statement := by
  have hexpiry : statement.expiresAt
      = (db.now / Time.second + service.artifactTtlSeconds) * Time.second := by
    rw [h, hissued, Nat.add_mul]
    rfl
  unfold WholeSeconds Time.truncate
  rw [hexpiry, Nat.mul_div_cancel _ (by decide : 0 < Time.second)]

theorem buildIssuerStatusArtifact_ok {statement : IssuerStatusStatement} {keyId : String}
    {signature : Bytes} {artifact : IssuerStatusArtifact}
    (h : buildIssuerStatusArtifact statement keyId signature = .ok artifact) :
    artifact.statement = statement := by
  unfold buildIssuerStatusArtifact at h
  by_cases hkey : keyId = ""
  · rw [if_pos hkey] at h
    cases h
  rw [if_neg hkey] at h
  by_cases hlength : signature.length ≠ 64
  · rw [if_pos hlength] at h
    cases h
  rw [if_neg hlength] at h
  obtain rfl := Except.ok.inj h
  rfl

/-- The artifact of a publication that passes the checks holds the statement. -/
theorem checkPublication_ok {registryId : String} {issuer current : IssuerRegistryRecord}
    {publication : IssuerStatusPublicationRecord} {statement : IssuerStatusStatement}
    {signed : ManagedIssuerStatusSignature} {db : RegistryDb} {artifact : IssuerStatusArtifact}
    (h : checkPublication registryId issuer publication statement signed db
      = .ok (current, artifact)) : artifact.statement = statement := by
  unfold checkPublication at h
  cases hlock : db.lockedRecord registryId with
  | error e =>
      rw [hlock] at h
      cases h
  | ok found =>
      rw [hlock] at h
      dsimp only at h
      by_cases hchanged : found.statusVersion ≠ publication.statusVersion
          ∨ found.standing ≠ publication.standing
      · rw [if_pos hchanged] at h
        cases h
      rw [if_neg hchanged] at h
      cases hbuild : buildIssuerStatusArtifact statement signed.keyId signed.signature with
      | error e =>
          rw [hbuild] at h
          cases h
      | ok built =>
          rw [hbuild] at h
          obtain ⟨-, rfl⟩ := Prod.mk.inj (Except.ok.inj h)
          exact buildIssuerStatusArtifact_ok hbuild

theorem queriedIssuer_ok {query : ArtifactQuery} {db : RegistryDb}
    {issuer : IssuerRegistryRecord} (h : queriedIssuer query db = .ok issuer) :
    db.issuers.get? issuer.registryId = some issuer := by
  have hlocked : ∀ {registryId}, db.lockedRecord registryId = .ok issuer →
      db.issuers.get? issuer.registryId = some issuer := by
    intro registryId hlock
    exact Table.get?_of_mem (Table.mem_of_get? (lockedRecord_ok hlock))
  have hidentity : ∀ {issuerType issuerId}, db.lockedByIdentity issuerType issuerId = .ok issuer →
      db.issuers.get? issuer.registryId = some issuer := by
    intro issuerType issuerId hlock
    unfold RegistryDb.lockedByIdentity at hlock
    cases hfind : db.findByIdentity issuerType issuerId with
    | none =>
        rw [hfind] at hlock
        cases hlock
    | some found =>
        rw [hfind] at hlock
        obtain rfl := Except.ok.inj hlock
        exact Table.get?_of_mem (List.mem_of_find?_eq_some hfind)
  obtain ⟨registryId, issuerType, issuerId⟩ := query
  cases registryId with
  | some registryId => exact hlocked h
  | none =>
      cases issuerType with
      | none => cases h
      | some issuerType =>
          cases issuerId with
          | none => cases h
          | some issuerId => exact hidentity h

theorem currentPublication_ok {issuer : IssuerRegistryRecord} {db : RegistryDb}
    {publication : IssuerStatusPublicationRecord}
    (h : currentPublication issuer db = some publication) :
    publication ∈ db.publications.rows ∧ publication.issuerRegistryId = issuer.registryId ∧
      publication.statusVersion = issuer.statusVersion := by
  have hmem := List.mem_of_mem_head? h
  rw [List.mem_mergeSort, List.mem_filter] at hmem
  obtain ⟨hrow, hfilter⟩ := hmem
  simp only [Bool.and_eq_true, decide_eq_true_eq] at hfilter
  exact ⟨hrow, hfilter.1.1, hfilter.1.2⟩

theorem servedArtifact_eq_some {publication : Option IssuerStatusPublicationRecord}
    {artifact : IssuerStatusArtifact} {expiresAt : Time}
    (h : servedArtifact publication = some (artifact, expiresAt)) :
    ∃ row, publication = some row ∧ row.statusArtifact = some artifact := by
  unfold servedArtifact at h
  simp only [Option.bind_eq_bind, Option.bind_eq_some_iff] at h
  obtain ⟨row, hrow, found, hfound, expires, -, hpair⟩ := h
  obtain ⟨rfl, -⟩ := Prod.mk.inj (Option.some.inj hpair)
  exact ⟨row, hrow, hfound⟩

/-- The lookup changes nothing, and finds a publication of the issuer's version. -/
theorem findStatusArtifact_ok {query : ArtifactQuery} {db db' : RegistryDb}
    {artifact : IssuerStatusArtifact} (h : findStatusArtifact query db = .ok (artifact, db')) :
    db' = db ∧ ∃ issuer publication, queriedIssuer query db = .ok issuer ∧
      currentPublication issuer db = some publication ∧
        publication.statusArtifact = some artifact := by
  unfold findStatusArtifact at h
  obtain ⟨issuer, hissuer, h⟩ := bind_eq_ok h
  cases hserved : servedArtifact (currentPublication issuer db) with
  | none =>
      rw [hserved] at h
      cases h
  | some pair =>
      obtain ⟨found, expiresAt⟩ := pair
      rw [hserved] at h
      dsimp only at h
      by_cases hexpired : expiresAt ≤ db.clock
      · rw [if_pos hexpired] at h
        cases h
      · rw [if_neg hexpired] at h
        obtain ⟨rfl, rfl⟩ := Prod.mk.inj (Except.ok.inj h)
        obtain ⟨publication, hcurrent, hartifact⟩ := servedArtifact_eq_some hserved
        exact ⟨rfl, issuer, publication, hissuer, hcurrent, hartifact⟩

/-- **What the lookup finds states the issuer's standing.** -/
theorem findStatusArtifact_current {service : IssuerRegistryService} {query : ArtifactQuery}
    {db db' : RegistryDb} {artifact : IssuerStatusArtifact} (hinv : RegistryInv service db)
    (h : findStatusArtifact query db = .ok (artifact, db')) :
    (∃ issuer, queriedIssuer query db = .ok issuer ∧
      artifact.statement.status = issuer.standing) ∧ WellTimed service artifact.statement := by
  obtain ⟨-, issuer, publication, hissuer, hcurrent, hartifact⟩ := findStatusArtifact_ok h
  obtain ⟨hrow, hregistry, hversion⟩ := currentPublication_ok hcurrent
  obtain ⟨hseen, hstates, -⟩ := hinv publication hrow
  obtain ⟨hstatus, htimed⟩ := hstates artifact hartifact
  obtain ⟨record, hrecord, hnotLater⟩ := hseen
  rw [hregistry, queriedIssuer_ok hissuer] at hrecord
  obtain rfl := Option.some.inj hrecord
  -- the publication is of this version, so of this standing
  rcases hnotLater with hlt | ⟨-, hstanding⟩
  · omega
  · exact ⟨⟨issuer, hissuer, hstatus.trans hstanding⟩, htimed⟩

section
variable {service : IssuerRegistryService} {db : RegistryDb}

/-- Giving a publication up keeps the invariant. -/
theorem failPublication_keeps {publication : IssuerStatusPublicationRecord}
    (hinv : RegistryInv service db) (hpub : PublicationOk service db publication)
    (actor : IssuerRegistryActor) (issuer : IssuerRegistryRecord) (digest : String)
    (failure : IssuerRegistryError) :
    RegistryInv service (failPublication actor issuer publication digest failure db) ∧
      Evolves db (failPublication actor issuer publication digest failure db) := by
  have hev : Evolves db (failPublication actor issuer publication digest failure db) :=
    Evolves.of_issuers rfl
  have hfailed : PublicationOk service db (failedPublication db publication digest failure) :=
    ⟨hpub.seen, hpub.artifact, nofun⟩
  refine ⟨hinv.write hfailed hev ?_, hev⟩
  intro p hp
  exact Table.mem_of_mem_put hp

/-- The second window gives the publication up, or completes it with the statement. -/
theorem finishPublication_cases (registryId : String) (actor : IssuerRegistryActor)
    (issuer : IssuerRegistryRecord) (publication : IssuerStatusPublicationRecord)
    (statement : IssuerStatusStatement) (digest : String)
    (signed : ManagedIssuerStatusSignature) (db : RegistryDb) :
    (∃ seen failure,
      finishPublication registryId actor issuer publication statement digest signed db
        = (.error (publicationFailure failure),
            failPublication actor seen publication digest failure db)) ∨
      ∃ current artifact, artifact.statement = statement ∧
        finishPublication registryId actor issuer publication statement digest signed db
          = (.ok ⟨artifact, completedPublication db publication digest signed artifact⟩,
              completePublication actor current
                (completedPublication db publication digest signed artifact) artifact db) := by
  unfold finishPublication
  cases hcheck : checkPublication registryId issuer publication statement signed db with
  | error pair => exact .inl ⟨pair.1, pair.2, rfl⟩
  | ok pair => exact .inr ⟨pair.1, pair.2, checkPublication_ok hcheck, rfl⟩

/-- Completing a publication keeps the invariant.  That the artifact states the standing of
the publication needs no look at the issuer: both come from the first window. -/
theorem completePublication_keeps {publication : IssuerStatusPublicationRecord}
    {artifact : IssuerStatusArtifact} (hinv : RegistryInv service db)
    (hpub : PublicationOk service db publication)
    (hstatus : artifact.statement.status = publication.standing)
    (htimed : WellTimed service artifact.statement) (hwhole : WholeSeconds artifact.statement)
    (actor : IssuerRegistryActor)
    (issuer : IssuerRegistryRecord) (digest : String) (signed : ManagedIssuerStatusSignature) :
    let completed := completedPublication db publication digest signed artifact
    RegistryInv service (completePublication actor issuer completed artifact db) ∧
      Evolves db (completePublication actor issuer completed artifact db) := by
  intro completed
  have hev : Evolves db (completePublication actor issuer completed artifact db) :=
    Evolves.of_issuers rfl
  have hcompleted : PublicationOk service db completed := by
    refine ⟨hpub.seen, ?_, fun _ => ⟨artifact, _, rfl, rfl, rfl, hwhole⟩⟩
    intro a ha
    obtain rfl := Option.some.inj ha
    exact ⟨hstatus, htimed⟩
  refine ⟨hinv.write hcompleted hev ?_, hev⟩
  intro p hp
  exact Table.mem_of_mem_put hp

end

/-- The promises registry calls make each other. -/
def registryProtocol (service : IssuerRegistryService) : Protocol RegistryDb RegistryCall :=
  Protocol.shared (RegistryInv service) Evolves Evolves.refl fun _ _ _ => Evolves.trans

/-! ### What each call keeps to -/

section
variable {service : IssuerRegistryService} {i : Nat} {call : RegistryCall}
  {own : List (RegistryDb × RegistryDb)} {s : RegistryDb}

/-- A window that writes issuers only, before the rest of a call. -/
theorem holds_issuerWindow {α β : Type} {Q : Post RegistryDb IssuerRegistryError β}
    {f : RegistryDb → Except IssuerRegistryError (α × RegistryDb)}
    {g : α → Prog RegistryDb IssuerRegistryError β}
    (hf : ∀ t a t', f t = .ok (a, t') → Evolves t t' ∧ t'.publications = t.publications)
    (hg : ∀ a own t, Holds (registryProtocol service) i call Q (g a) own t)
    (herror : ∀ own e t, Q own (.error e) t) :
    Holds (registryProtocol service) i call Q (Prog.transaction f >>= g) own s := by
  refine Holds.transaction_bind Evolves.refl ?_ ?_
  · intro t a t' _ hinv h
    obtain ⟨hev, hpublications⟩ := hf t a t' h
    exact ⟨hinv.evolve hev hpublications, hev, hg a _ t'⟩
  · intro t e _ _ _
    exact herror _ e t

theorem holds_refresh (record : IssuerRegistryRecord) :
    Holds (registryProtocol service) i call (fun _ _ _ => True) (refresh record) own s :=
  Holds.read Evolves.refl fun _ _ _ => trivial

theorem holds_registerIssuer (identity : Members) (actor : IssuerRegistryActor)
    (metadata : Option Members) (registryId : String) :
    Holds (registryProtocol service) i call (fun _ _ _ => True)
      (registerIssuer identity actor metadata registryId) own s := by
  unfold registerIssuer
  refine Holds.ofExcept_bind ?_ fun _ _ => trivial
  intro _ _
  refine Holds.ofExcept_bind ?_ fun _ _ => trivial
  intro issuer _
  refine Holds.read_bind Evolves.refl ?_
  intro t _ _
  by_cases hexists : (t.findByIdentity issuer.type issuer.id).isSome
  · rw [if_pos hexists]
    trivial
  · rw [if_neg hexists]
    refine holds_issuerWindow ?_ ?_ fun _ _ _ => trivial
    · intro t record t' h
      exact insertIssuer_ok h
    · intro record own t
      exact holds_refresh record

/-- A window that changes a standing, with the read after its commit. -/
theorem holds_standing
    {f : RegistryDb → Except IssuerRegistryError ((IssuerRegistryRecord × Bool) × RegistryDb)}
    (hf : ∀ t a t', f t = .ok (a, t') → Evolves t t' ∧ t'.publications = t.publications) :
    Holds (registryProtocol service) i call (fun _ _ _ => True)
      (do
        let (record, changed) ← Prog.transaction f
        if changed then refresh record else return record) own s := by
  refine holds_issuerWindow hf ?_ fun _ _ _ => trivial
  rintro ⟨record, changed⟩ own t
  cases changed with
  | true => exact holds_refresh record
  | false => trivial

theorem holds_changeStandingCall (registryId reason permission : String)
    (target : IssuerStanding) (actor : IssuerRegistryActor) :
    Holds (registryProtocol service) i call (fun _ _ _ => True)
      (changeStandingCall registryId target reason actor permission) own s :=
  holds_standing fun _ _ _ h => changeStanding_ok h

/-- A publication returns an artifact that lives as long as it should, or raises. -/
def Publishes (service : IssuerRegistryService) :
    Post RegistryDb IssuerRegistryError IssuerStatusPublicationResult :=
  fun _ r _ => ∀ result, r = .ok result → WellTimed service result.artifact.statement

theorem holds_signAndFinish {publication : IssuerStatusPublicationRecord}
    {statement : IssuerStatusStatement} (hpub : PublicationOk service s publication)
    (hstatus : statement.status = publication.standing) (htimed : WellTimed service statement)
    (hwhole : WholeSeconds statement)
    (sign : IssuerStatusSigner) (registryId : String) (actor : IssuerRegistryActor)
    (issuer : IssuerRegistryRecord) (digest : String) :
    Holds (registryProtocol service) i call (Publishes service)
      (signAndFinish sign registryId actor issuer publication statement digest) own s := by
  unfold signAndFinish
  cases sign statement publication.publicationId with
  | error failure =>
      refine Holds.update_bind ?_
      intro t hrely hinv
      obtain ⟨hkept, hev⟩ :=
        failPublication_keeps hinv (hpub.evolve hrely) actor issuer digest failure
      exact ⟨hkept, hev, fun _ h => nomatch h⟩
  | ok signed =>
      refine Holds.update_bind ?_
      intro t hrely hinv
      obtain ⟨seen, failure, hcases⟩ | ⟨current, artifact, hartifact, hcases⟩ :=
        finishPublication_cases registryId actor issuer publication statement digest signed t
      · obtain ⟨hkept, hev⟩ :=
          failPublication_keeps hinv (hpub.evolve hrely) actor seen digest failure
        rw [hcases]
        exact ⟨hkept, hev, fun _ h => nomatch h⟩
      · rw [← hartifact] at hstatus htimed hwhole
        obtain ⟨hkept, hev⟩ := completePublication_keeps hinv (hpub.evolve hrely) hstatus htimed
          hwhole actor current digest signed
        rw [hcases]
        refine ⟨hkept, hev, ?_⟩
        intro published hpublished
        obtain rfl := Except.ok.inj hpublished
        exact htimed

/-- From its first commit on a publication is in flight: what is known of the issuer is
what `Evolves` keeps. -/
theorem holds_statePublication {issuer : IssuerRegistryRecord}
    {publication : IssuerStatusPublicationRecord} (hpub : PublicationOk service s publication)
    (hstanding : publication.standing = issuer.standing) (dumps : Json → Option Bytes)
    (sign : IssuerStatusSigner) (registryId : String) (actor : IssuerRegistryActor) :
    Holds (registryProtocol service) i call (Publishes service)
      (statePublication dumps service sign registryId actor issuer publication) own s := by
  unfold statePublication
  refine Holds.read_bind Evolves.refl ?_
  intro t hrely _
  refine Holds.ofExcept_bind ?_ fun _ _ _ h => nomatch h
  intro statement hstatement
  obtain ⟨hstatus, htimed, hissued⟩ := publicationStatement_ok hstatement
  refine Holds.ofExcept_bind ?_ fun _ _ _ h => nomatch h
  intro digest _
  exact holds_signAndFinish (hpub.evolve hrely) (hstatus.trans hstanding.symm) htimed
    (htimed.wholeSeconds hissued) sign registryId actor issuer digest

/-- **Whatever happens while the signer is at work, a publication keeps to the protocol.** -/
theorem holds_publishStatus (dumps : Json → Option Bytes) (signer : Option IssuerStatusSigner)
    (registryId : String) (actor : IssuerRegistryActor) (publicationId : String) :
    Holds (registryProtocol service) i call (Publishes service)
      (publishStatus dumps service signer registryId actor publicationId) own s := by
  unfold publishStatus
  refine Holds.ofExcept_bind ?_ fun _ _ _ h => nomatch h
  intro _ _
  cases signer with
  | none => exact fun _ h => nomatch h
  | some sign =>
      refine Holds.transaction_bind Evolves.refl ?_ ?_
      · rintro t ⟨issuer, publication⟩ t' - hinv h
        obtain ⟨hissuer, rfl, hissuers, hpublications⟩ := requestPublication_ok h
        have hev : Evolves t t' := Evolves.of_issuers hissuers
        obtain rfl : issuer.registryId = registryId := Table.key_of_get? hissuer
        have hpub : PublicationOk service t
            (requestedPublication service issuer actor publicationId) :=
          ⟨⟨issuer, hissuer, .inr ⟨rfl, rfl⟩⟩, nofun, nofun⟩
        exact ⟨hinv.write hpub hev hpublications, hev,
          holds_statePublication (hpub.evolve hev) rfl dumps sign issuer.registryId actor⟩
      · intro t e _ _ _ result h
        cases h

/-- What a call's answer is held to: its artifact lives as long as it should, and the
artifact of a lookup states the standing the issuer has when the lookup returns. -/
def Answers (service : IssuerRegistryService) (call : RegistryCall) :
    Post RegistryDb IssuerRegistryError RegistryAnswer :=
  fun _ r db => ∀ answer, r = .ok answer → ∀ artifact, answer.artifact? = some artifact →
    WellTimed service artifact.statement ∧
      ∀ query, call = .latest query → ∃ issuer, queriedIssuer query db = .ok issuer ∧
        artifact.statement.status = issuer.standing

/-- A call that answers with an issuer. -/
theorem holds_issuerAnswer
    {p : Prog RegistryDb IssuerRegistryError IssuerRegistryRecord}
    (h : Holds (registryProtocol service) i call (fun _ _ _ => True) p own s) :
    Holds (registryProtocol service) i call (Answers service call)
      (do return .issuer (← p)) own s := by
  refine Holds.bind _ _ _ (Holds.mono ?_ _ _ _ h)
  intro own r t _
  cases r with
  | error e =>
      intro answer hanswer
      cases hanswer
  | ok record =>
      intro answer hanswer artifact hartifact
      obtain rfl := Except.ok.inj hanswer
      cases hartifact

theorem holds_body (dumps : Json → Option Bytes) (call : RegistryCall) :
    Holds (registryProtocol service) i call (Answers service call) (call.body dumps service) own s := by
  cases call with
  | register identity actor metadata registryId =>
      exact holds_issuerAnswer (holds_registerIssuer identity actor metadata registryId)
  | suspend registryId reason actor =>
      exact holds_issuerAnswer (holds_changeStandingCall registryId reason _ .suspended actor)
  | reinstate registryId reason actor =>
      exact holds_issuerAnswer (holds_standing fun _ _ _ h => reinstate_ok h)
  | publish registryId actor signer publicationId =>
      refine Holds.bind _ _ _ (Holds.mono ?_ _ _ _
        (holds_publishStatus dumps signer registryId actor publicationId))
      intro own r t hpublishes
      cases r with
      | error e =>
          intro answer hanswer
          cases hanswer
      | ok result =>
          intro answer hanswer artifact hartifact
          obtain rfl := Except.ok.inj hanswer
          obtain rfl := Option.some.inj hartifact
          exact ⟨hpublishes result rfl, nofun⟩
  | revoke registryId reason actor signer publicationId =>
      refine Holds.bind _ _ _ (Holds.bind _ _ _ (Holds.mono ?_ _ _ _
        (holds_changeStandingCall registryId reason _ .revoked actor)))
      intro own r t _
      cases r with
      | error e =>
          intro answer hanswer
          cases hanswer
      | ok issuer =>
          refine Holds.bind _ _ _ (Holds.mono ?_ _ _ _
            (holds_publishStatus dumps signer registryId actor publicationId))
          intro own r t hpublishes
          cases r with
          | error e =>
              intro answer hanswer
              cases hanswer
          | ok result =>
              intro answer hanswer artifact hartifact
              obtain rfl := Except.ok.inj hanswer
              obtain rfl := Option.some.inj hartifact
              exact ⟨hpublishes result rfl, nofun⟩
  | latest query =>
      refine Holds.transaction_bind Evolves.refl ?_ ?_
      · intro t artifact t' _ hinv h
        obtain ⟨⟨issuer, hissuer, hstatus⟩, htimed⟩ := findStatusArtifact_current hinv h
        obtain rfl := (findStatusArtifact_ok h).1
        refine ⟨hinv, Evolves.refl _, ?_⟩
        intro answer hanswer found hfound
        obtain rfl := Except.ok.inj hanswer
        obtain rfl := Option.some.inj hfound
        refine ⟨htimed, ?_⟩
        rintro query' heq
        obtain rfl := RegistryCall.latest.inj heq
        exact ⟨issuer, hissuer, hstatus⟩
      · intro t e _ _ _ answer hanswer
        cases hanswer

end

/-! ### Every run -/

section
variable (dumps : Json → Option Bytes) (service : IssuerRegistryService) (start : Time)

theorem registry_verified :
    Verified (registryProtocol service) (fun _ call => Answers service call)
      (fun _ call => call.body dumps service) setClock where
  calls := fun _ call _ _ => holds_body dumps call
  inv := fun _ _ hinv => hinv.evolve (Evolves.of_issuers rfl) rfl
  rely := fun _ _ _ _ => Evolves.of_issuers rfl
  evolves := fun _ _ _ => Evolves.of_issuers rfl

theorem runRegistry_sound (events : List (Event RegistryCall Time)) :
    Sound (registryProtocol service) (fun _ call => Answers service call)
      (runRegistry dumps service start events) := by
  refine Sound.runAll (registry_verified dumps service) events (Sound.initial ?_)
  intro p hp
  cases hp

theorem runRegistry_append (before after : List (Event RegistryCall Time)) :
    runRegistry dumps service start (before ++ after)
      = (runRegistry dumps service start before).runAll
          (fun _ call => call.body dumps service) setClock after :=
  List.foldl_append

theorem runRegistry_evolves (before after : List (Event RegistryCall Time)) :
    Evolves (runRegistry dumps service start before).store
      (runRegistry dumps service start (before ++ after)).store := by
  rw [runRegistry_append]
  exact (runRegistry_sound dumps service start before).runAll_evolves
    (registry_verified dumps service) after

/-- The event makes call `i`, a lookup, return this artifact. -/
def Serves (c : Config RegistryDb IssuerRegistryError RegistryAnswer RegistryCall)
    (event : Event RegistryCall Time) (query : ArtifactQuery) (artifact : IssuerStatusArtifact) :
    Prop :=
  ∃ i, c.Returns (fun _ call => call.body dumps service) setClock event i (.latest query)
    (.ok (.artifact artifact))

/-- **What the registry serves, in any interleaving of its calls.**  Between any two points
of a run every issuer is kept, its version grows whenever its standing changes, and
revoked is final.  An artifact that a lookup returns after the second point states the
standing the issuer has when the lookup returns, which is revoked when the issuer was
revoked at the first point.  Every artifact, stored or returned, lives for the lifetime
that is set, which is within the staleness that is tolerated. -/
theorem issuerRegistry_sound (before after : List (Event RegistryCall Time)) :
    let first := runRegistry dumps service start before
    let second := runRegistry dumps service start (before ++ after)
    (∀ registryId old, first.store.issuers.get? registryId = some old →
      ∃ new, second.store.issuers.get? registryId = some new ∧
        old.statusVersion ≤ new.statusVersion ∧
          (new.standing ≠ old.standing → old.statusVersion < new.statusVersion) ∧
            (old.standing = .revoked → new.standing = .revoked)) ∧
    (∀ event query artifact, Serves dumps service second event query artifact →
      ∃ last issuer, last = runRegistry dumps service start (before ++ after ++ [event]) ∧
        queriedIssuer query last.store = .ok issuer ∧
          last.store.issuers.get? issuer.registryId = some issuer ∧
            artifact.statement.status = issuer.standing ∧
              ∀ old, first.store.issuers.get? issuer.registryId = some old →
                old.standing = .revoked → artifact.statement.status = .revoked) ∧
    (∀ publication ∈ second.store.publications.rows, ∀ artifact,
      publication.statusArtifact = some artifact → artifact.statement.expiresAt
        = artifact.statement.issuedAt + service.artifactTtlSeconds * Time.second) ∧
    (∀ i call answer artifact, second.Returned i call (.ok answer) →
      answer.artifact? = some artifact → artifact.statement.expiresAt
        = artifact.statement.issuedAt + service.artifactTtlSeconds * Time.second) ∧
    service.artifactTtlSeconds ≤ service.maxStalenessSeconds := by
  intro first second
  have hsound := runRegistry_sound dumps service start (before ++ after)
  refine ⟨?_, ?_, ?_, ?_, service.ttlWithinStaleness⟩
  · intro registryId old hold
    obtain ⟨new, hnew, hadv⟩ := runRegistry_evolves dumps service start before after
      registryId old hold
    refine ⟨new, hnew, ?_, ?_, hadv.revoked⟩
    · rcases hadv.version with hlt | ⟨heq, -⟩
      · exact Nat.le_of_lt hlt
      · exact Nat.le_of_eq heq
    · intro hchanged
      rcases hadv.version with hlt | ⟨-, hsame⟩
      · exact hlt
      · exact absurd hsame.symm hchanged
  · rintro event query artifact ⟨i, hreturns⟩
    have hanswers := hsound.returns (registry_verified dumps service) hreturns
    obtain ⟨issuer, hissuer, hstatus⟩ :=
      (hanswers _ rfl artifact rfl).2 query rfl
    have hlast : (second.step (fun _ call => call.body dumps service) setClock event)
        = runRegistry dumps service start (before ++ after ++ [event]) :=
      (runRegistry_append dumps service start (before ++ after) [event]).symm
    rw [hlast] at hissuer
    have hget := queriedIssuer_ok hissuer
    refine ⟨_, issuer, rfl, hissuer, hget, hstatus, ?_⟩
    intro old hold hrevoked
    rw [List.append_assoc] at hget
    obtain ⟨new, hnew, hadv⟩ := runRegistry_evolves dumps service start before
      (after ++ [event]) issuer.registryId old hold
    obtain rfl := Option.some.inj (hnew.symm.trans hget)
    rw [hstatus]
    exact hadv.revoked hrevoked
  · intro publication hrow artifact hartifact
    exact ((hsound.inv publication hrow).artifact artifact hartifact).2
  · intro i call answer artifact hreturned hartifact
    obtain ⟨s, -, hanswers⟩ := hsound.returned hreturned
    exact (hanswers answer rfl artifact hartifact).1

end

end ControlPlane.IssuerRegistry
