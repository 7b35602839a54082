/-
What commitments detect, and what they hide.

`verify_commitment` looks at the fields of the parameters it is given, and of these only at the ones
that are recorded as a commitment.  Another value of a committed field is detected.  A field that is
dropped, one that is added and another value of a safe field are not.

`classify_params` looks at the names of the fields and no deeper.  A safe field is recorded with all
that its value holds, sensitive or not.
-/
import ControlPlane.Lib.JsonHide
import ControlPlane.Services.FieldClassification

namespace ControlPlane.FieldClassification

open JsonRead

variable {floats : Floats}

theorem Params.nodup (params : Params floats) : (params.members.map (·.1)).Nodup := by
  obtain ⟨maxDigits, depth, h⟩ := params.json
  cases h with
  | obj names => exact names

/-- The values of parameters are values that JSON can carry. -/
theorem Params.isJson (params : Params floats) {member : Codes × Value floats.F}
    (hmember : member ∈ params.members) : IsJson floats member.2 := by
  obtain ⟨maxDigits, depth, h⟩ := params.json
  cases h with
  | obj _ _ hmembers => exact ⟨maxDigits, _, hmembers member hmember⟩

theorem Params.get?_eq_some (params : Params floats) {key : Codes} {value : Value floats.F} :
    get? params.members key = some value ↔ (key, value) ∈ params.members :=
  JsonRead.get?_eq_some params.nodup

/-! ### What is recorded -/

/-- What is recorded of parameters. -/
def recorded (params : Params floats) (salt : String) : JsonRead.Members floats.F :=
  (classifyParams params salt "commitment").1

theorem foldl_classifyField (salt : String) (fields found : JsonRead.Members floats.F)
    (evidence : JsonRead.Members floats.F) (hnodup : ((found ++ fields).map (·.1)).Nodup) :
    (fields.foldl (classifyField salt) (found, evidence)).1
      = found ++ fields.map fun field => (field.1, committedValue salt field.1 field.2) := by
  induction fields generalizing found evidence with
  | nil => exact (List.append_nil found).symm
  | cons field rest ih =>
      obtain ⟨key, value⟩ := field
      have hnew : key ∉ found.map (·.1) := by
        intro hmem
        rw [List.map_append, List.map_cons, List.nodup_append] at hnodup
        exact hnodup.2.2 _ hmem _ List.mem_cons_self rfl
      have hfound : setMember found (key, committedValue salt key value) = _ := setMember_new hnew
      have hnames : (((found ++ [(key, committedValue salt key value)]) ++ rest).map
          (·.1)).Nodup := by simpa using hnodup
      rw [List.foldl_cons, classifyField, hfound, ih _ _ hnames, List.append_assoc]
      rfl

/-- **A record has the names of the parameters, and a commitment or the value under each.** -/
theorem recorded_eq (params : Params floats) (salt : String) :
    recorded params salt
      = params.members.map fun field => (field.1, committedValue salt field.1 field.2) :=
  foldl_classifyField salt params.members [] [] params.nodup

theorem get?_recorded (params : Params floats) (salt : String) (key : Codes) :
    get? (recorded params salt) key
      = (get? params.members key).map (committedValue salt key) := by
  rw [recorded_eq]
  exact get?_map (committedValue salt) params.members key

/-- What is kept apart is a value that was committed to, under its commitment. -/
theorem mem_keptApart (params : Params floats) (salt : String) {entry : Codes × Value floats.F}
    (h : entry ∈ (classifyParams params salt "commitment").2) :
    ∃ field ∈ params.members, commits field.1 = true ∧
      entry = (codes (commit field.2 salt), rawValue field.2) := by
  have hfold : ∀ (fields found evidence : JsonRead.Members floats.F),
      entry ∈ (fields.foldl (classifyField salt) (found, evidence)).2 → entry ∈ evidence ∨
        ∃ field ∈ fields, commits field.1 = true ∧
          entry = (codes (commit field.2 salt), rawValue field.2) := by
    intro fields
    induction fields with
    | nil => exact fun _ _ h => .inl h
    | cons field rest ih =>
        intro found evidence h
        rcases ih _ _ h with h | ⟨other, hother, hcommits, rfl⟩
        · obtain ⟨key, value⟩ := field
          have h : entry ∈ if commits key then
              setMember evidence (codes (commit value salt), rawValue value) else evidence := h
          by_cases hcommits : commits key = true
          · rw [if_pos hcommits] at h
            rcases mem_of_mem_setMember h with rfl | h
            · exact .inr ⟨(key, value), List.mem_cons_self, hcommits, rfl⟩
            · exact .inl h
          · rw [if_neg hcommits] at h
            exact .inl h
        · exact .inr ⟨other, List.mem_cons_of_mem _ hother, hcommits, rfl⟩
  rcases hfold params.members [] [] h with h | h
  · exact absurd h List.not_mem_nil
  · exact h

/-! ### What is detected -/

/-- What is hashed for the values of some parameters. -/
def commitMessages (p q : Params floats) (salt : String) : Set Bytes :=
  {message | ∃ member, (member ∈ p.members ∨ member ∈ q.members) ∧
    message = commitMessage member.2 salt}

/-- Commitments to two values are equal if the values are the same. -/
theorem commit_eq_iff {p q : Params floats} {salt : String}
    (hfree : CollisionFreeOn (commitMessages p q salt)) {key key' : Codes}
    {value old : Value floats.F} (hvalue : (key, value) ∈ q.members)
    (hold : (key', old) ∈ p.members) :
    commit value salt = commit old salt ↔ SameValue value old := by
  have hmessage : commit value salt = commit old salt ↔
      commitMessage value salt = commitMessage old salt := by
    constructor
    · intro h
      exact hfree ⟨_, .inr hvalue, rfl⟩ ⟨_, .inl hold, rfl⟩ (toHex_injective h)
    · exact fun h => congrArg sha256Hex h
  have htext : commitMessage value salt = commitMessage old salt ↔
      dumpsSorted floats value = dumpsSorted floats old := by
    constructor
    · intro h
      have htexts := congrArg String.toList (utf8_injective h)
      rw [String.toList_append, String.toList_append] at htexts
      exact String.toList_inj.mp (List.append_cancel_right htexts)
    · intro h
      rw [commitMessage, h, ← commitMessage]
  rw [hmessage, htext]
  exact dumpsSorted_inj (q.isJson hvalue) (p.isJson hold)

/-- A field that `p` commits to has another value in `q`. -/
def Changed (p q : Params floats) : Prop :=
  ∃ key value old, commits key = true ∧ get? q.members key = some value ∧
    get? p.members key = some old ∧ ¬SameValue value old

/-- A field that `p` keeps as it is holds what looks like a commitment, and it is none to the value
in `q`. -/
def Misread (p q : Params floats) (salt : String) : Prop :=
  ∃ key value old stored, commits key = false ∧ get? q.members key = some value ∧
    get? p.members key = some old ∧ storedCommitment old = some stored ∧
    isText (commit value salt) (some stored) = false

theorem storedCommitment_commitmentOf (commitment : String) :
    storedCommitment (commitmentOf commitment : Value floats.F)
      = some (.str (codes commitment)) := by
  simp [storedCommitment, commitmentOf, get?]

/-- **What is verified**: no committed field has another value, and no safe one looks like a
commitment to another. -/
theorem verifyCommitment_iff (p q : Params floats) (salt : String)
    (hfree : CollisionFreeOn (commitMessages p q salt)) :
    verifyCommitment q (recorded p salt) salt = true ↔ ¬Changed p q ∧ ¬Misread p q salt := by
  unfold verifyCommitment
  rw [List.all_eq_true]
  constructor
  · intro h
    constructor
    · rintro ⟨key, value, old, hcommits, hvalue, hold, hne⟩
      have hmember := q.get?_eq_some.mp hvalue
      have hfield := h _ hmember
      have hstored : (get? (recorded p salt) key).bind storedCommitment
          = some (.str (codes (commit old salt))) := by
        rw [get?_recorded, hold, Option.map_some, committedValue, if_pos hcommits]
        exact storedCommitment_commitmentOf _
      simp only [hstored, isText, decide_eq_true_eq, codes_inj] at hfield
      exact hne ((commit_eq_iff hfree hmember (p.get?_eq_some.mp hold)).mp hfield.symm)
    · rintro ⟨key, value, old, stored, hkept, hvalue, hold, hlooks, hother⟩
      have hfield := h _ (q.get?_eq_some.mp hvalue)
      have hstored : (get? (recorded p salt) key).bind storedCommitment = some stored := by
        rw [get?_recorded, hold, Option.map_some, committedValue, if_neg (by simp [hkept])]
        exact hlooks
      simp only [hstored, hother] at hfield
      exact absurd hfield Bool.false_ne_true
  · rintro ⟨hchanged, hmisread⟩ ⟨key, value⟩ hmember
    have hvalue := q.get?_eq_some.mpr hmember
    simp only [get?_recorded]
    cases hold : get? p.members key with
    | none => rfl
    | some old =>
        rw [Option.map_some, Option.bind_some, committedValue]
        cases hcommits : commits key with
        | true =>
            rw [if_pos rfl, storedCommitment_commitmentOf]
            have hsame : SameValue value old := by
              by_contra hne
              exact hchanged ⟨key, value, old, hcommits, hvalue, hold, hne⟩
            have heq := (commit_eq_iff hfree hmember (p.get?_eq_some.mp hold)).mpr hsame
            simp [isText, heq]
        | false =>
            rw [if_neg Bool.false_ne_true]
            cases hlooks : storedCommitment old with
            | none => rfl
            | some stored =>
                by_contra hother
                rw [Bool.not_eq_true] at hother
                exact hmisread ⟨key, value, old, stored, hcommits, hvalue, hold, hlooks, hother⟩

/-- The same parameters have the same value in every field. -/
theorem not_changed_of_same {p q : Params floats} (h : SameObject q.members p.members) :
    ¬Changed p q := by
  rintro ⟨key, value, old, -, hvalue, hold, hne⟩
  have hkey := h key
  rw [hvalue, hold, Option.map_some, Option.map_some, Option.some.injEq] at hkey
  exact hne hkey

/-- **Parameters are verified exactly if they are the ones that were classified, where** no safe
field of these looks like a commitment to something else, or where a difference is one that is
looked at. -/
theorem verifies_same_iff (p q : Params floats) (salt : String)
    (hfree : CollisionFreeOn (commitMessages p q salt)) :
    (verifyCommitment q (classifyParams p salt "commitment").1 salt = true ↔
        SameObject q.members p.members) ↔
      (SameObject q.members p.members ∧ ¬Misread p q salt) ∨
        (¬SameObject q.members p.members ∧ (Changed p q ∨ Misread p q salt)) := by
  have hverify := verifyCommitment_iff p q salt hfree
  rw [recorded] at hverify
  rw [hverify]
  by_cases hsame : SameObject q.members p.members
  · have hkept := not_changed_of_same hsame
    simp [hsame, hkept]
  · simp only [hsame, iff_false, not_and, not_not, false_and, not_false_eq_true, true_and,
      false_or]
    constructor
    · intro h
      by_cases hchanged : Changed p q
      · exact .inl hchanged
      · exact .inr (h hchanged)
    · intro h hchanged
      exact h.resolve_left hchanged

/-- Floats none of which is a number. -/
def nanOnly : Floats where
  F := Unit
  text _ := codes "NaN"
  read _ := ()
  ascii _ := by
    rw [codes_nan]
    decide
  reads _ maxDigits rest _ := by
    have hother : ∀ text ∈ ["null", "true", "false"],
        (codes text).isPrefixOf (codes "NaN" ++ rest) = false := by
      intro text htext
      simp only [List.mem_cons, List.not_mem_nil, or_false] at htext
      rcases htext with rfl | rfl | rfl
      · rw [codes_null, codes_nan]
        rfl
      · rw [codes_true, codes_nan]
        rfl
      · rw [codes_false, codes_nan]
        rfl
    simp only [scanPlain, constants, List.find?_cons, hother "null" (by decide),
      hother "true" (by decide), hother "false" (by decide), isPrefixOf_append, List.drop_left]

/-- Parameters of one field with a whole number. -/
def oneField (name : String) (n : Nat) : Params nanOnly where
  members := [(codes name, .int n)]
  json := by
    refine ⟨digitsOf n, 1, .obj (by simp) ?_ ?_⟩
    · intro member hmember
      rw [List.mem_singleton.mp hmember]
      exact clean_codes name
    · intro member hmember
      rw [List.mem_singleton.mp hmember]
      exact .int 0 le_rfl

theorem get?_oneField (name : String) (n : Nat) :
    get? (oneField name n).members (codes name) = some (.int n) := by
  simp [oneField, get?]

/-- The messages of the fields below have different hashes. -/
private theorem oneField_collisionFree (name : String) :
    CollisionFreeOn (commitMessages (oneField name 1) (oneField name 2) "s") := by
  have hne : sha256 (utf8 "1s") ≠ sha256 (utf8 "2s") := by decide
  have hmessage : ∀ m ∈ commitMessages (oneField name 1) (oneField name 2) "s",
      m = utf8 "1s" ∨ m = utf8 "2s" := by
    rintro m ⟨member, hmember, rfl⟩
    rcases hmember with hmember | hmember
    · rw [List.mem_singleton.mp hmember]
      left
      show commitMessage (.int 1 : Value nanOnly.F) "s" = utf8 "1s"
      decide
    · rw [List.mem_singleton.mp hmember]
      right
      show commitMessage (.int 2 : Value nanOnly.F) "s" = utf8 "2s"
      decide
  intro a ha b hb hab
  rcases hmessage a ha with rfl | rfl <;> rcases hmessage b hb with rfl | rfl
  · rfl
  · exact absurd hab hne
  · exact absurd hab.symm hne
  · rfl

/-- A changed social security number is detected. -/
theorem ssn_change_detected :
    verifyCommitment (oneField "ssn" 2) (classifyParams (oneField "ssn" 1) "s" "commitment").1 "s"
        = true ↔
      SameObject (oneField "ssn" 2).members (oneField "ssn" 1).members := by
  have hchanged : Changed (oneField "ssn" 1) (oneField "ssn" 2) := by
    refine ⟨codes "ssn", .int 2, .int 1, by decide, get?_oneField _ 2, get?_oneField _ 1, ?_⟩
    intro h
    exact absurd (Value.int.inj h) (by decide)
  have hother : ¬SameObject (oneField "ssn" 2).members (oneField "ssn" 1).members :=
    fun h => not_changed_of_same h hchanged
  exact (verifies_same_iff (oneField "ssn" 1) (oneField "ssn" 2) "s"
    (oneField_collisionFree "ssn")).mpr (.inr ⟨hother, .inl hchanged⟩)

/-- A changed amount is not detected. -/
theorem amount_change_undetected :
    CollisionFreeOn (commitMessages (oneField "amount_minor" 1) (oneField "amount_minor" 2) "s") ∧
      verifyCommitment (oneField "amount_minor" 2)
        (classifyParams (oneField "amount_minor" 1) "s" "commitment").1 "s" = true ∧
      ¬SameObject (oneField "amount_minor" 2).members (oneField "amount_minor" 1).members := by
  refine ⟨oneField_collisionFree _, by decide +kernel, ?_⟩
  intro h
  have hvalue := h (codes "amount_minor")
  rw [get?_oneField, get?_oneField] at hvalue
  exact absurd (Value.int.inj (Option.some.inj hvalue)) (by decide)

/-! ### What is hidden -/

/-- A sensitive field name. -/
def sensitive (key : Codes) : Bool := key ∈ SENSITIVE_FIELDS

/-- The same but for what is stored under sensitive names, at any depth. -/
def AlikeButSensitive (p q : Params floats) : Prop :=
  SameObject (hideMembers sensitive .null p.members) (hideMembers sensitive .null q.members)

/-- The same but for the hashes of commitments. -/
def OnlyHashesDiffer (a b : JsonRead.Members floats.F) : Prop :=
  ∀ key, (get? a key).map JsonRead.sortKeys = (get? b key).map JsonRead.sortKeys ∨
    ∃ hash hash', get? a key = some (commitmentOf hash) ∧ get? b key = some (commitmentOf hash')

/-- Safe fields have the same values. -/
def SafeAlike (p q : Params floats) : Prop :=
  ∀ key, commits key = false →
    (get? p.members key).map JsonRead.sortKeys = (get? q.members key).map JsonRead.sortKeys

/-- No safe field holds a sensitive one, at any depth. -/
def SafeThroughout (p : Params floats) : Prop :=
  ∀ key value, commits key = false → get? p.members key = some value → hides sensitive value = false

theorem get?_hideMembers (filler : Value floats.F) (members : JsonRead.Members floats.F)
    (key : Codes) : get? (hideMembers sensitive filler members) key
      = (get? members key).map (hideUnder sensitive filler key) := by
  rw [hideMembers_eq]
  exact get?_map (hideUnder sensitive filler) members key

/-- Alike parameters have the same fields, and values that are alike in the ones that are kept. -/
theorem AlikeButSensitive.field {p q : Params floats} (h : AlikeButSensitive p q) (key : Codes) :
    (get? p.members key).map (fun value => JsonRead.sortKeys (hideUnder sensitive .null key value))
      = (get? q.members key).map
        fun value => JsonRead.sortKeys (hideUnder sensitive .null key value) := by
  have hkey := h key
  rw [get?_hideMembers, get?_hideMembers, Option.map_map, Option.map_map] at hkey
  exact hkey

theorem not_sensitive_of_kept {key : Codes} (h : commits key = false) : sensitive key = false := by
  rw [commits, Bool.or_eq_false_iff] at h
  exact h.1

/-- A commitment has nothing to hide. -/
theorem hide_commitmentOf (hash : String) :
    hide sensitive .null (commitmentOf hash : Value floats.F) = commitmentOf hash := by
  apply hide_of_not_hides
  have hname : sensitive (codes "_commitment") = false := by decide
  simp [commitmentOf, hides, hidesMembers, hname]

/-- **What is recorded of alike parameters differs in hashes only where** their safe fields have
the same values. -/
theorem onlyHashesDiffer_iff {p q : Params floats} (h : AlikeButSensitive p q) (salt : String) :
    OnlyHashesDiffer (recorded p salt) (recorded q salt) ↔ SafeAlike p q := by
  constructor
  · intro hdiffer key hkept
    have hvalue : ∀ params : Params floats, get? (recorded params salt) key
        = get? params.members key := by
      intro params
      have hid : (committedValue salt key : Value floats.F → Value floats.F) = id := by
        funext value
        rw [committedValue, hkept]
        rfl
      rw [get?_recorded, hid, Option.map_id]
      rfl
    rcases hdiffer key with hsame | ⟨hash, hash', hp, hq⟩
    · rwa [hvalue, hvalue] at hsame
    · rw [hvalue] at hp hq
      have hfield := h.field key
      rw [hp, hq] at hfield ⊢
      simpa [hideUnder, not_sensitive_of_kept hkept, hide_commitmentOf] using hfield
  · intro hsafe key
    rw [get?_recorded, get?_recorded]
    cases hcommits : commits key with
    | false =>
        left
        have hsame := hsafe key hcommits
        simpa [committedValue, hcommits, Function.comp_def] using hsame
    | true =>
        have hfield := h.field key
        cases hp : get? p.members key with
        | none =>
            rw [hp, Option.map_none, eq_comm, Option.map_eq_none_iff] at hfield
            rw [hfield]
            exact .inl rfl
        | some value =>
            cases hq : get? q.members key with
            | none =>
                rw [hp, hq] at hfield
                exact absurd hfield (Option.some_ne_none _)
            | some other =>
                right
                refine ⟨commit value salt, commit other salt, ?_, ?_⟩
                · simp [committedValue, hcommits]
                · simp [committedValue, hcommits]

/-- The parameters with a filler in the place of everything sensitive. -/
def Params.hide (params : Params floats) (filler : Value floats.F)
    (hfiller : ∀ maxDigits depth, Readable floats.text floats.read maxDigits depth filler) :
    Params floats where
  members := hideMembers sensitive filler params.members
  json := by
    obtain ⟨maxDigits, depth, h⟩ := params.json
    exact ⟨maxDigits, depth, h.hide (hfiller maxDigits)⟩

theorem Params.alike_hide (params : Params floats) {filler : Value floats.F}
    (hfiller : ∀ maxDigits depth, Readable floats.text floats.read maxDigits depth filler) :
    AlikeButSensitive params (params.hide filler hfiller) := by
  have hmembers : hideMembers sensitive .null (hideMembers sensitive filler params.members)
      = hideMembers sensitive .null params.members := by
    have h : JsonRead.hide sensitive .null (JsonRead.hide sensitive filler (.obj params.members))
        = JsonRead.hide sensitive .null (.obj params.members) := hide_hide filler _
    rw [JsonRead.hide, JsonRead.hide, JsonRead.hide] at h
    exact Value.obj.inj h
  intro key
  show _ = (get? (hideMembers sensitive .null
    (hideMembers sensitive filler params.members)) key).map JsonRead.sortKeys
  rw [hmembers]

/-- Alike parameters have the same values in safe fields if these hold nothing sensitive. -/
theorem safeAlike_of_safeThroughout {p q : Params floats} (hsafe : SafeThroughout p)
    (h : AlikeButSensitive p q) : SafeAlike p q := by
  intro key hkept
  have hfield := h.field key
  have hname := not_sensitive_of_kept hkept
  cases hp : get? p.members key with
  | none =>
      rw [hp, Option.map_none, eq_comm, Option.map_eq_none_iff] at hfield
      rw [hfield]
  | some value =>
      cases hq : get? q.members key with
      | none =>
          rw [hp, hq] at hfield
          exact absurd hfield (Option.some_ne_none _)
      | some other =>
          have hvalue : hides sensitive value = false := hsafe key value hkept hp
          simp only [hp, hq, Option.map_some, Option.some.injEq, hideUnder, hname,
            Bool.false_eq_true, if_false] at hfield
          rw [hide_of_not_hides hvalue] at hfield
          -- the value of `q` has as little to hide as the one of `p`
          have hother : hides sensitive other = false := by
            have hsorted : hides sensitive (JsonRead.sortKeys (hide sensitive .null other))
                = hides sensitive (hide sensitive .null other) := hides_sortKeys _
            rw [hides_hide, ← hfield, hides_sortKeys] at hsorted
            exact hsorted.symm.trans hvalue
          rw [hide_of_not_hides hother] at hfield
          rw [Option.map_some, Option.map_some, hfield]

theorem safeThroughout_of_safeAlike {p : Params floats}
    (h : ∀ q, AlikeButSensitive p q → SafeAlike p q) : SafeThroughout p := by
  intro key value hkept hvalue
  have hname := not_sensitive_of_kept hkept
  -- whatever takes the place of what is sensitive, the value stays the same
  have hfilled : ∀ filler : Value floats.F, JsonRead.sortKeys filler = filler →
      (∀ maxDigits depth, Readable floats.text floats.read maxDigits depth filler) →
      JsonRead.hide sensitive filler (JsonRead.sortKeys value) = JsonRead.sortKeys value := by
    intro filler hsorted hfiller
    have hsame := h _ (p.alike_hide hfiller) key hkept
    change _ = (get? (hideMembers sensitive filler p.members) key).map JsonRead.sortKeys at hsame
    rw [get?_hideMembers, hvalue, Option.map_some, Option.map_some, Option.map_some,
      Option.some.injEq, hideUnder, hname, if_neg Bool.false_ne_true,
      sortKeys_hide hsorted] at hsame
    exact hsame.symm
  have hnull := hfilled .null rfl fun _ depth => .null depth
  have htrue := hfilled (.bool true) rfl fun _ depth => .bool depth true
  have hne : (.null : Value floats.F) ≠ .bool true := by
    intro h
    cases h
  rw [← hides_sortKeys]
  exact hides_of_hide_eq hne (hnull.trans htrue.symm)

/-- **What is recorded of alike parameters differs in hashes only** exactly if their safe fields
have the same values, and of one object this is so whatever else is stored under sensitive names
exactly if no safe field of it holds a sensitive one. -/
theorem record_hides_iff (p : Params floats) :
    (∀ q salt, AlikeButSensitive p q →
      (OnlyHashesDiffer (classifyParams p salt "commitment").1
        (classifyParams q salt "commitment").1 ↔ SafeAlike p q)) ∧
    ((∀ q salt, AlikeButSensitive p q →
      OnlyHashesDiffer (classifyParams p salt "commitment").1
        (classifyParams q salt "commitment").1) ↔ SafeThroughout p) := by
  refine ⟨fun q salt h => onlyHashesDiffer_iff h salt, ?_, ?_⟩
  · intro h
    apply safeThroughout_of_safeAlike
    intro q hq
    exact (onlyHashesDiffer_iff hq "").mp (h q "" hq)
  · intro hsafe q salt hq
    exact (onlyHashesDiffer_iff hq salt).mpr (safeAlike_of_safeThroughout hsafe hq)

/-- Parameters with a scope that holds a social security number. -/
def scopeWithSsn (n : Nat) : Params nanOnly where
  members := [(codes "scope", .obj (oneField "ssn" n).members)]
  json := by
    refine ⟨digitsOf n, 2, .obj (by simp) ?_ ?_⟩
    · intro member hmember
      rw [List.mem_singleton.mp hmember]
      exact clean_codes "scope"
    · intro member hmember
      rw [List.mem_singleton.mp hmember]
      refine .obj (oneField "ssn" n).nodup ?_ ?_
      · intro field hfield
        rw [List.mem_singleton.mp hfield]
        exact clean_codes "ssn"
      · intro field hfield
        rw [List.mem_singleton.mp hfield]
        exact .int 0 le_rfl

/-- The number in the scope is recorded. -/
theorem scope_ssn_recorded :
    AlikeButSensitive (scopeWithSsn 1) (scopeWithSsn 2) ∧
      ¬OnlyHashesDiffer (classifyParams (scopeWithSsn 1) "s" "commitment").1
        (classifyParams (scopeWithSsn 2) "s" "commitment").1 := by
  have halike : AlikeButSensitive (scopeWithSsn 1) (scopeWithSsn 2) := fun _ => rfl
  refine ⟨halike, ?_⟩
  intro h
  have hsafe := (onlyHashesDiffer_iff halike "s").mp h (codes "scope") (by decide)
  have hscope : ∀ n, (get? (scopeWithSsn n).members (codes "scope")).map JsonRead.sortKeys
      = some (.obj [(codes "ssn", .int n)]) := by
    intro n
    simp [scopeWithSsn, oneField, get?, JsonRead.sortKeys, JsonRead.sortMembers,
      JsonRead.insertMember]
  rw [hscope, hscope] at hsafe
  simp at hsafe

end ControlPlane.FieldClassification
