/-
Whether a capability token is read as it was minted, and what else is accepted.

Base64, UTF-8 and JSON each give back what was put in, so the payload is read as it was written.
What was written has the expiry as Python's floats see it: from the year 2514 on a double has
less than a millionth of a second to spare, and a moment just before a full second is written as
that second.  What is accepted was signed, since the signature is over the two parts themselves.
-/
import ControlPlane.Lib.Except
import ControlPlane.Services.CapabilityTokens

namespace ControlPlane.CapabilityTokens

open Escrow (SignatureSpec encodeSegment)
open JsonRead

/-- A signer that verifies its own signatures and no others, and whose signatures have no dot. -/
structure Signer.Honest {F : Type} (signer : Signer F) : Prop where
  own : ∀ input spec, signer.sign input = .ok spec →
    signer.verify input (.str (codes signer.algorithm)) (.str (codes signer.keyId))
      (codes spec.value) = true
  only : ∀ input algorithm keyId value, signer.verify input algorithm keyId value = true →
    ∃ spec, signer.sign input = .ok spec ∧ codes spec.value = value
  no_dot : ∀ input spec, signer.sign input = .ok spec → code '.' ∉ codes spec.value

/-- The payload, as it is read. -/
def Claims.payloadRead {F : Type} (claims : Claims) (exp : Int) : JsonRead.Members F :=
  [(codes "escrow_id", .str (codes claims.escrowId)),
    (codes "action_intent_digest", .str (codes claims.actionIntentDigest)),
    (codes "scope", .arr (claims.scope.map fun entry => .str (codes entry))),
    (codes "audience", .str (codes claims.audience)), (codes "exp", .int exp),
    (codes "nonce", .str (codes claims.nonce))]

/-- A token of three parts, of which the signer signed the first two together. -/
def SignedTogether {F : Type} (signer : Signer F) (token : Codes) : Prop :=
  ∃ headerPart payloadPart signaturePart spec,
    token = headerPart ++ code '.' :: (payloadPart ++ code '.' :: signaturePart) ∧
    code '.' ∉ headerPart ∧ code '.' ∉ payloadPart ∧ code '.' ∉ signaturePart ∧
    signer.sign (signedText headerPart payloadPart) = .ok spec ∧ codes spec.value = signaturePart

/-! ### Members -/

theorem sortedByKey_perm (members : ControlPlane.Members) : (sortedByKey members).Perm members := by
  unfold sortedByKey
  induction members with
  | nil => exact .refl _
  | cons member rest ih => exact (insertMember_perm _ _).trans (ih.cons _)

section

variable {F : Type} {number : Rat → F} {floatText : F → Codes} {readFloat : Codes → F}
variable {interpreter : Interpreter} {maxDigits : Nat}

theorem ofMembers_eq (members : ControlPlane.Members) : ofMembers number members
    = members.map fun member => (codes member.1, ofJson number member.2) := by
  induction members with
  | nil => rfl
  | cons member rest ih =>
      obtain ⟨key, value⟩ := member
      rw [ofMembers, ih, List.map_cons]

theorem ofItems_eq (items : List Json) : ofItems number items = items.map (ofJson number) := by
  induction items with
  | nil => rfl
  | cons item rest ih => rw [ofItems, ih, List.map_cons]

theorem names_ofMembers (members : ControlPlane.Members) :
    (ofMembers number members).map (·.1) = (members.map (·.1)).map codes := by
  rw [ofMembers_eq, List.map_map, List.map_map]
  rfl

/-- An object whose members are different and readable is readable. -/
theorem readable_obj {depth : Nat} {members : ControlPlane.Members}
    (hnames : (members.map (·.1)).Nodup) (h : ∀ member ∈ members,
      Readable floatText readFloat maxDigits depth (ofJson number member.2)) :
    Readable floatText readFloat maxDigits (depth + 1)
      (ofJson number (.obj (sortedByKey members))) := by
  have hperm := sortedByKey_perm members
  have hentry : ∀ entry ∈ ofMembers number (sortedByKey members), ∃ member ∈ members,
      entry = (codes member.1, ofJson number member.2) := by
    intro entry hentry
    rw [ofMembers_eq] at hentry
    obtain ⟨member, hmember, rfl⟩ := List.mem_map.mp hentry
    exact ⟨member, hperm.mem_iff.mp hmember, rfl⟩
  refine .obj ?_ ?_ ?_
  · rw [names_ofMembers]
    exact ((hperm.map _).nodup_iff.mpr hnames).map codes_injective
  · intro entry hin
    obtain ⟨member, -, rfl⟩ := hentry entry hin
    exact clean_codes _
  · intro entry hin
    obtain ⟨member, hmember, rfl⟩ := hentry entry hin
    exact h member hmember

/-- What is read of an object that was written with its members sorted. -/
theorem sameDict_sorted {members : ControlPlane.Members} (hnames : (members.map (·.1)).Nodup) :
    SameDict (ofMembers number (sortedByKey members)) (ofMembers number members) := by
  have hperm := sortedByKey_perm members
  apply sameDict_of_perm
  · rw [ofMembers_eq, ofMembers_eq]
    exact hperm.map _
  · rw [names_ofMembers]
    exact ((hperm.map _).nodup_iff.mpr hnames).map codes_injective

/-! ### Segments -/

theorem encode_eq (bytes : Bytes) :
    codesOf (TransparencyFormat.base64UrlUnpadded bytes) = Base64Url.encode bytes := by
  induction bytes using Base64Url.encode.induct with
  | case1 => rfl
  | case2 a => rfl
  | case3 a b => rfl
  | case4 a b c rest ih =>
      rw [Base64Url.encode, ← ih]
      rfl

theorem codes_encodeSegment (value : Json) : codes (encodeSegment value)
    = Base64Url.encode (utf8 (JsonText.dumps (fun _ => []) value)) := by
  rw [encodeSegment, codes, String.toList_ofList, encode_eq]

/-- **A segment is read as the value that was written.** -/
theorem readSegment_encode {value : Json} (hwhole : Whole value)
    (h : Readable floatText readFloat interpreter.maxDigits interpreter.depth
      (ofJson number value)) :
    readSegment readFloat interpreter (codes (encodeSegment value)) = .ok (ofJson number value) := by
  have hdecoded : (Base64Url.b64urlDecode (codes (encodeSegment value))).bind utf8Decode
      = some (JsonText.dumps (fun _ => []) value) := by
    rw [codes_encodeSegment, Base64Url.b64urlDecode_encode, Option.bind_some, utf8Decode_utf8]
  have hread : loads readFloat interpreter.maxDigits interpreter.depth
      (codes (JsonText.dumps (fun _ => []) value)) = .ok (ofJson number value) := by
    have hdumps : codes (JsonText.dumps (fun _ => []) value)
        = write floatText (ofJson number value) := codes_dumps hwhole
    rw [hdumps]
    exact loads_write h
  unfold readSegment
  rw [hdecoded]
  simp only [hread]

theorem dot_notMem_segment (value : Json) : code '.' ∉ codes (encodeSegment value) := by
  rw [codes_encodeSegment]
  exact Base64Url.dot_notMem_encode _

/-! ### What is written -/

theorem length_digitsText_le (k : Nat) : ∀ n < 10 ^ (k + 1), (digitsText n).length ≤ k + 1 := by
  induction k with
  | zero =>
      intro n hn
      rw [digitsText_small (by simpa using hn)]
      rfl
  | succ k ih =>
      intro n hn
      rcases Nat.lt_or_ge n 10 with h | h
      · rw [digitsText_small h]
        exact Nat.succ_le_succ (Nat.zero_le _)
      · have hfront := ih (n / 10) (by
          rw [pow_succ] at hn
          omega)
        rw [digitsText_large h, List.length_append]
        exact Nat.succ_le_succ hfront

theorem natAbs_intTimestamp (expiry : Expiry) : expiry.intTimestamp.natAbs
    = Double.truncQuotient expiry.microseconds.natAbs Time.second := by
  unfold Expiry.intTimestamp
  split_ifs
  · rw [Int.natAbs_neg]
    exact Int.natAbs_natCast _
  · exact Int.natAbs_natCast _

theorem natAbs_lt (expiry : Expiry) :
    expiry.microseconds.natAbs / Time.second < 253402300800 := by
  have hfirst := expiry.first_year
  have hlast := expiry.last_year
  have hsecond : Time.second = 1000000 := rfl
  rw [hsecond]
  omega

theorem digitsOf_intTimestamp (expiry : Expiry) : digitsOf expiry.intTimestamp ≤ 640 := by
  have hle := Double.truncQuotient_le (show 0 < Time.second by decide) expiry.microseconds.natAbs
  have hlt := natAbs_lt expiry
  have hlength := length_digitsText_le 11 expiry.intTimestamp.natAbs (by
    rw [natAbs_intTimestamp]
    omega)
  exact hlength.trans (by decide)

theorem readable_str (depth : Nat) (text : String) :
    Readable floatText readFloat maxDigits depth (ofJson number (.str text)) :=
  .str _ (clean_codes text)

theorem readable_header (signer : Signer F) : Readable floatText readFloat interpreter.maxDigits
    interpreter.depth (ofJson number (.obj (sortedByKey (header signer)))) := by
  have hlevels := interpreter.levels
  obtain ⟨depth, hdepth⟩ : ∃ d, interpreter.depth = d + 1 := ⟨interpreter.depth - 1, by omega⟩
  rw [hdepth]
  apply readable_obj
  · simp [header]
  · intro member hmember
    simp only [header, List.mem_cons, List.not_mem_nil, or_false] at hmember
    rcases hmember with rfl | rfl | rfl
    · exact readable_str _ _
    · exact readable_str _ _
    · exact readable_str _ _

theorem ofJson_int (n : Int) : ofJson number (.num (n : Rat)) = .int n := by
  rw [ofJson, if_pos (Rat.den_intCast n), Rat.num_intCast]

theorem readable_claims (claims : Claims) {exp : Int} (hdigits : digitsOf exp ≤ maxDigits)
    (depth : Nat) : Readable floatText readFloat maxDigits (depth + 2)
      (ofJson number (.obj (sortedByKey (claims.payload exp)))) := by
  apply readable_obj
  · simp [Claims.payload]
  · intro member hmember
    simp only [Claims.payload, List.mem_cons, List.not_mem_nil, or_false] at hmember
    rcases hmember with rfl | rfl | rfl | rfl | rfl | rfl
    · exact readable_str _ _
    · exact readable_str _ _
    · show Readable _ _ _ _ (.arr (ofItems number _))
      rw [ofItems_eq, List.map_map]
      apply Readable.arr
      intro item hitem
      obtain ⟨entry, -, rfl⟩ := List.mem_map.mp hitem
      exact readable_str _ _
    · exact readable_str _ _
    · show Readable _ _ _ _ (ofJson number (.num (exp : Rat)))
      rw [ofJson_int]
      exact .int _ hdigits
    · exact readable_str _ _

theorem readable_payload (claims : Claims) :
    Readable floatText readFloat interpreter.maxDigits interpreter.depth
      (ofJson number (.obj (sortedByKey (claims.payload claims.expiry.intTimestamp)))) := by
  have hlevels := interpreter.levels
  obtain ⟨depth, hdepth⟩ : ∃ d, interpreter.depth = d + 2 := ⟨interpreter.depth - 2, by omega⟩
  rw [hdepth]
  exact readable_claims claims ((digitsOf_intTimestamp _).trans interpreter.digits) depth

theorem whole_obj {members : ControlPlane.Members} (h : ∀ member ∈ members, Whole member.2) :
    Whole (.obj (sortedByKey members)) :=
  .obj fun member hmember => h member ((sortedByKey_perm members).mem_iff.mp hmember)

theorem whole_header (signer : Signer F) : Whole (.obj (sortedByKey (header signer))) := by
  apply whole_obj
  intro member hmember
  simp only [header, List.mem_cons, List.not_mem_nil, or_false] at hmember
  rcases hmember with rfl | rfl | rfl
  · exact .str _
  · exact .str _
  · exact .str _

theorem whole_payload (claims : Claims) (exp : Int) :
    Whole (.obj (sortedByKey (claims.payload exp))) := by
  apply whole_obj
  intro member hmember
  simp only [Claims.payload, List.mem_cons, List.not_mem_nil, or_false] at hmember
  rcases hmember with rfl | rfl | rfl | rfl | rfl | rfl
  · exact .str _
  · exact .str _
  · apply Whole.arr
    intro item hitem
    obtain ⟨entry, -, rfl⟩ := List.mem_map.mp hitem
    exact .str entry
  · exact .str _
  · exact .num (Rat.den_intCast exp)
  · exact .str _

theorem ofMembers_payload (claims : Claims) (exp : Int) :
    ofMembers number (claims.payload exp) = claims.payloadRead exp := by
  have hscope : ofJson number (.arr (claims.scope.map .str))
      = .arr (claims.scope.map fun entry => .str (codes entry)) := by
    rw [ofJson, ofItems_eq, List.map_map]
    rfl
  rw [ofMembers_eq]
  simp only [Claims.payload, Claims.payloadRead, List.map_cons, List.map_nil, ofJson_int, hscope]
  rfl

/-- The lookups of the header that was minted. -/
theorem get?_header (signer : Signer F) :
    get? (ofMembers number (sortedByKey (header signer))) (codes "alg")
        = some (.str (codes signer.algorithm)) ∧
      get? (ofMembers number (sortedByKey (header signer))) (codes "typ")
        = some (.str (codes "acp-cap+jwt")) ∧
      get? (ofMembers number (sortedByKey (header signer))) (codes "kid")
        = some (.str (codes signer.keyId)) := by
  have hnames : ((header signer).map (·.1)).Nodup := by simp [header]
  have hsame : SameDict (ofMembers number (sortedByKey (header signer)))
      (ofMembers number (header signer)) := sameDict_sorted hnames
  rw [hsame, hsame, hsame, ofMembers_eq]
  simp [header, get?, ofJson]

/-! ### Tokens -/

theorem splitOn_token {a b c : Codes} (ha : code '.' ∉ a) (hb : code '.' ∉ b) (hc : code '.' ∉ c) :
    (a ++ code '.' :: (b ++ code '.' :: c)).splitOn (code '.') = [a, b, c] := by
  have hpieces : ∀ piece ∈ [a, b, c], code '.' ∉ piece := by
    intro piece hpiece
    simp only [List.mem_cons, List.not_mem_nil, or_false] at hpiece
    rcases hpiece with rfl | rfl | rfl
    · exact ha
    · exact hb
    · exact hc
  have hsplit := List.splitOn_intercalate (code '.') hpieces (List.cons_ne_nil _ _)
  simpa [List.intercalate, List.intersperse] using hsplit

theorem codes_append (a b : String) : codes (a ++ b) = codes a ++ codes b := by
  rw [codes, String.toList_append]
  exact List.map_append

theorem signedText_segments (header payload : Json) :
    signedText (codes (encodeSegment header)) (codes (encodeSegment payload))
      = utf8 (encodeSegment header ++ "." ++ encodeSegment payload) := by
  have hdot : codes "." = [code '.'] := by decide
  have htext : codes (encodeSegment header) ++ code '.' :: codes (encodeSegment payload)
      = codes (encodeSegment header ++ "." ++ encodeSegment payload) := by
    rw [codes_append, codes_append, hdot, List.append_assoc, List.singleton_append]
  rw [signedText, htext, textOf_codes]

variable (readFloat interpreter)

/-- **A minted token is read as the payload that was written.** -/
theorem verify_minted {signer : Signer F} (hsigner : signer.Honest) {claims : Claims}
    {token : String} {spec : SignatureSpec}
    (hmint : signCapabilityToken signer claims = .ok (token, spec)) :
    ∃ payload, verifyCapabilityToken readFloat interpreter signer (codes token) = .ok payload ∧
      SameDict payload (claims.payloadRead claims.expiry.intTimestamp) := by
  obtain ⟨signature, hsign, hmint⟩ := bind_eq_ok hmint
  obtain ⟨rfl, rfl⟩ := Prod.mk.inj (Except.ok.inj hmint)
  -- no value has a float, so any reading of floats does
  let number : Rat → F := fun _ => readFloat []
  let floatText : F → Codes := fun _ => []
  have hdot : codes "." = [code '.'] := by decide
  have hheader : readSegment readFloat interpreter
      (codes (encodeSegment (.obj (sortedByKey (header signer)))))
      = .ok (.obj (ofMembers number (sortedByKey (header signer)))) :=
    @readSegment_encode _ _ floatText _ _ _ (whole_header signer) (readable_header signer)
  have hpayload : readSegment readFloat interpreter
      (codes (encodeSegment (.obj (sortedByKey (claims.payload claims.expiry.intTimestamp)))))
      = .ok (.obj (ofMembers number
        (sortedByKey (claims.payload claims.expiry.intTimestamp)))) :=
    @readSegment_encode _ _ floatText _ _ _ (whole_payload claims _) (readable_payload claims)
  have hlookups := @get?_header _ number signer
  have hsplit := splitOn_token (dot_notMem_segment (.obj (sortedByKey (header signer))))
    (dot_notMem_segment (.obj (sortedByKey (claims.payload claims.expiry.intTimestamp))))
    (hsigner.no_dot _ _ hsign)
  have hverified := hsigner.own _ _ hsign
  rw [signingInput, ← signedText_segments] at hverified
  refine ⟨ofMembers number (sortedByKey (claims.payload claims.expiry.intTimestamp)), ?_, ?_⟩
  · have htoken : codes (signingInput signer claims ++ "." ++ signature.value)
        = codes (encodeSegment (.obj (sortedByKey (header signer))))
          ++ code '.' :: (codes (encodeSegment
            (.obj (sortedByKey (claims.payload claims.expiry.intTimestamp))))
            ++ code '.' :: codes signature.value) := by
      simp only [signingInput, codes_append, hdot, List.append_assoc, List.cons_append,
        List.nil_append]
    rw [htoken, verifyCapabilityToken, hsplit]
    obtain ⟨halg, htyp, hkid⟩ := hlookups
    have htext : isText (F := F) "acp-cap+jwt" (some (.str (codes "acp-cap+jwt"))) = true := by
      simp only [isText, decide_true]
    simp only [hheader, hpayload, bind, Except.bind, halg, htyp, hkid, htext, Option.getD_some,
      hverified, not_true_eq_false, if_false]
  · have hnames : ((claims.payload claims.expiry.intTimestamp).map (·.1)).Nodup := by
      simp [Claims.payload]
    have hsame : SameDict
        (ofMembers number (sortedByKey (claims.payload claims.expiry.intTimestamp)))
        (ofMembers number (claims.payload claims.expiry.intTimestamp)) := sameDict_sorted hnames
    rwa [ofMembers_payload] at hsame

/-- **What is accepted was signed.** -/
theorem accepted_signed {signer : Signer F} (hsigner : signer.Honest) {token : Codes}
    {payload : JsonRead.Members F}
    (h : verifyCapabilityToken readFloat interpreter signer token = .ok payload) :
    SignedTogether signer token := by
  unfold verifyCapabilityToken at h
  split at h
  · rename_i headerPart payloadPart signaturePart hsplit
    obtain ⟨header, -, h⟩ := bind_eq_ok h
    obtain ⟨body, -, h⟩ := bind_eq_ok h
    split at h
    · rename_i header payload
      split_ifs at h with htyp hverified
      obtain ⟨spec, hsign, hvalue⟩ := hsigner.only _ _ _ _ hverified
      have hjoined : [code '.'].intercalate (token.splitOn (code '.')) = token :=
        List.intercalate_splitOn (code '.')
      have hnone : ∀ piece ∈ token.splitOn (code '.'), code '.' ∉ piece :=
        notMem_of_mem_splitOn token
      rw [hsplit] at hjoined hnone
      refine ⟨headerPart, payloadPart, signaturePart, spec, ?_, ?_, ?_, ?_, hsign, hvalue⟩
      · rw [← hjoined]
        simp [List.intercalate, List.intersperse]
      · exact hnone _ (by simp)
      · exact hnone _ (by simp)
      · exact hnone _ (by simp)
    · cases h
  · cases h

/-! ### Expiries -/

/-- The moment is not within half a double's step of the next second. -/
def Expiry.Representable (expiry : Expiry) : Prop :=
  let n := expiry.microseconds.natAbs
  1000000 < 2 * ((1000000 - n % 1000000) * 2 ^ (52 - Nat.log2 (n / 1000000)))

theorem log2_seconds_lt (expiry : Expiry) :
    Nat.log2 (expiry.microseconds.natAbs / Time.second) < 52 := by
  have hlt := natAbs_lt expiry
  by_cases hzero : expiry.microseconds.natAbs / Time.second = 0
  · rw [hzero]
    decide
  · rw [Nat.log2_lt hzero]
    omega

theorem seconds_eq (expiry : Expiry) : expiry.seconds =
    if expiry.microseconds < 0 then
      -((expiry.microseconds.natAbs / Time.second : Nat) : Int)
    else ((expiry.microseconds.natAbs / Time.second : Nat) : Int) := by
  unfold Expiry.seconds
  split_ifs with hneg
  · have hminus : expiry.microseconds = -(expiry.microseconds.natAbs : Int) := by omega
    conv_lhs => rw [hminus, Int.neg_tdiv, ← Int.ofNat_tdiv]
  · have hplus : expiry.microseconds = (expiry.microseconds.natAbs : Int) := by omega
    conv_lhs => rw [hplus, ← Int.ofNat_tdiv]

/-- **The number in the token is the expiry truncated to seconds exactly if the expiry is not
within half a double's step of the next second.** -/
theorem intTimestamp_eq_iff (expiry : Expiry) :
    expiry.intTimestamp = expiry.seconds ↔ expiry.Representable := by
  have hcut := Double.truncQuotient_eq_iff (show 0 < Time.second by decide) (log2_seconds_lt expiry)
  have habs : expiry.intTimestamp = expiry.seconds ↔
      Double.truncQuotient expiry.microseconds.natAbs Time.second
        = expiry.microseconds.natAbs / Time.second := by
    rw [seconds_eq, Expiry.intTimestamp]
    split_ifs
    · rw [neg_inj, Nat.cast_inj]
    · rw [Nat.cast_inj]
  rw [habs, hcut]
  rfl

/-- Before the year 2514 it always is. -/
theorem representable_of_lt {expiry : Expiry}
    (h : expiry.microseconds.natAbs < 2 ^ 34 * 1000000) : expiry.Representable := by
  have hmod := Nat.mod_lt expiry.microseconds.natAbs (show 0 < 1000000 by decide)
  have hlog : Nat.log2 (expiry.microseconds.natAbs / 1000000) < 34 := by
    by_cases hzero : expiry.microseconds.natAbs / 1000000 = 0
    · rw [hzero]
      decide
    · rw [Nat.log2_lt hzero]
      omega
  have hscale : 2 ^ 19 ≤ 2 ^ (52 - Nat.log2 (expiry.microseconds.natAbs / 1000000)) :=
    Nat.pow_le_pow_right (by decide) (by omega)
  have hgap : 1 * 2 ^ 19 ≤ (1000000 - expiry.microseconds.natAbs % 1000000)
      * 2 ^ (52 - Nat.log2 (expiry.microseconds.natAbs / 1000000)) :=
    Nat.mul_le_mul (by omega) hscale
  unfold Expiry.Representable
  omega

/-- The payload with its members sorted by name. -/
theorem sortedByKey_payload (claims : Claims) (exp : Int) : sortedByKey (claims.payload exp)
    = [("action_intent_digest", .str claims.actionIntentDigest),
      ("audience", .str claims.audience), ("escrow_id", .str claims.escrowId),
      ("exp", .num exp), ("nonce", .str claims.nonce),
      ("scope", .arr (claims.scope.map .str))] := by
  simp +decide only [sortedByKey, Claims.payload, List.foldr_cons, List.foldr_nil, insertMember,
    if_true, if_false]

/-- **What is signed is what the escrow signs.** -/
theorem signingInput_eq (signer : Signer F) {claims : Claims} {t : Time}
    (ht : claims.expiry.microseconds = t) :
    signingInput signer claims
      = Escrow.signingInput ⟨signer.algorithm, signer.keyId, signer.sign⟩ claims.escrowId
          claims.actionIntentDigest claims.scope claims.audience t claims.nonce := by
  have hexp : claims.expiry.intTimestamp = (Escrow.intTimestamp t : Nat) := by
    have hpast : ¬ (t : Int) < 0 := by omega
    rw [Expiry.intTimestamp, ht, if_neg hpast, Int.natAbs_natCast]
    rfl
  have hheader : sortedByKey (header signer) = [("alg", .str signer.algorithm),
      ("kid", .str signer.keyId), ("typ", .str "acp-cap+jwt")] := by
    simp +decide only [sortedByKey, header, List.foldr_cons, List.foldr_nil, insertMember,
      if_true, if_false]
  rw [signingInput, hexp, hheader, sortedByKey_payload, Int.cast_natCast]
  rfl

/-! ### What a token says -/

/-- Two tokens that are the same have the same payload, whatever their signatures are. -/
theorem payload_of_token {header payload header' payload' : Json} {value value' : String}
    (h : encodeSegment header ++ "." ++ encodeSegment payload ++ "." ++ value
      = encodeSegment header' ++ "." ++ encodeSegment payload' ++ "." ++ value') :
    encodeSegment payload = encodeSegment payload' := by
  have hdot : codes "." = [code '.'] := by decide
  have hsplit : ∀ (header payload : Json) (value : String),
      ((codes (encodeSegment header ++ "." ++ encodeSegment payload ++ "." ++ value)).splitOn
          (code '.'))[1]? = some (codes (encodeSegment payload)) := by
    intro header payload value
    have htoken : codes (encodeSegment header ++ "." ++ encodeSegment payload ++ "." ++ value)
        = codes (encodeSegment header)
          ++ code '.' :: (codes (encodeSegment payload) ++ code '.' :: codes value) := by
      simp only [codes_append, hdot, List.append_assoc, List.cons_append, List.nil_append]
    rw [htoken, List.splitOn_append_cons_self_of_not_mem (dot_notMem_segment header),
      List.splitOn_append_cons_self_of_not_mem (dot_notMem_segment payload)]
    rfl
  have hsame := hsplit header payload value
  rw [h, hsplit header' payload' value', Option.some.injEq] at hsame
  exact (codes_injective hsame).symm

/-- What is written into a segment is what the segment is read as. -/
theorem encodeSegment_injective {digitsA depthA digitsB depthB : Nat} {a b : Json}
    (hwholeA : Whole a) (hwholeB : Whole b)
    (ha : Readable floatText readFloat digitsA depthA (ofJson number a))
    (hb : Readable floatText readFloat digitsB depthB (ofJson number b))
    (h : encodeSegment a = encodeSegment b) : ofJson number a = ofJson number b := by
  have hencoded := congrArg (fun segment => Base64Url.b64urlDecode (codes segment)) h
  simp only [codes_encodeSegment, Base64Url.b64urlDecode_encode, Option.some.injEq] at hencoded
  have htexts := congrArg codes (utf8_injective hencoded)
  have hdumps : ∀ {value : Json}, Whole value → codes (JsonText.dumps (fun _ => []) value)
      = write floatText (ofJson number value) := fun hwhole => codes_dumps hwhole
  rw [hdumps hwholeA, hdumps hwholeB] at htexts
  exact write_injective ha hb htexts

/-- **A payload that was written determines its number.** -/
theorem exp_of_payload {a b : Claims} {m n : Int}
    (h : encodeSegment (.obj (sortedByKey (a.payload m)))
      = encodeSegment (.obj (sortedByKey (b.payload n)))) : m = n := by
  -- no value has a float, so any reading of floats does
  let number : Rat → Unit := fun _ => ()
  let floatText : Unit → Codes := fun _ => []
  let readFloat : Codes → Unit := fun _ => ()
  have hreadA : Readable floatText readFloat (digitsOf m) 2
      (ofJson number (.obj (sortedByKey (a.payload m)))) :=
    readable_claims a (Nat.le_refl _) 0
  have hreadB : Readable floatText readFloat (digitsOf n) 2
      (ofJson number (.obj (sortedByKey (b.payload n)))) :=
    readable_claims b (Nat.le_refl _) 0
  have hvalues := encodeSegment_injective readFloat (whole_payload a m) (whole_payload b n) hreadA
    hreadB h
  have hmembers : ofMembers number (sortedByKey (a.payload m))
      = ofMembers number (sortedByKey (b.payload n)) := Value.obj.inj hvalues
  rw [sortedByKey_payload, sortedByKey_payload, ofMembers_eq, ofMembers_eq] at hmembers
  have hexps := congrArg (fun members => get? members (codes "exp")) hmembers
  simpa +decide [get?, ofJson_int] using hexps

/-! ### The round trip -/

/-- What the tokens of a signer should do, for one that was minted from these claims. -/
def Faithful (signer : Signer F) (claims : Claims) (token : Codes) : Prop :=
  (∃ payload, verifyCapabilityToken readFloat interpreter signer token = .ok payload ∧
    SameDict payload (claims.payloadRead claims.expiry.seconds)) ∧
  ∀ other payload, verifyCapabilityToken readFloat interpreter signer other = .ok payload →
    SignedTogether signer other

/-- The expiry of a token that is read as the claims is the truncated one. -/
theorem intTimestamp_of_faithful {signer : Signer F} (hsigner : signer.Honest) {claims : Claims}
    {token : String} {spec : SignatureSpec}
    (hmint : signCapabilityToken signer claims = .ok (token, spec))
    (h : Faithful readFloat interpreter signer claims (codes token)) :
    claims.expiry.intTimestamp = claims.expiry.seconds := by
  obtain ⟨read, hread, hsame⟩ := verify_minted readFloat interpreter hsigner hmint
  obtain ⟨⟨payload, hpayload, htruncated⟩, -⟩ := h
  have hexp : ∀ exp, get? (claims.payloadRead exp : JsonRead.Members F) (codes "exp")
      = some (.int exp) := by
    intro exp
    simp [Claims.payloadRead, get?]
  obtain rfl := Except.ok.inj (hpayload.symm.trans hread)
  have hint := (hsame (codes "exp")).symm.trans (htruncated (codes "exp"))
  rw [hexp, hexp] at hint
  exact Value.int.inj (Option.some.inj hint)

/-- **A minted token is read as the claims with the expiry truncated to seconds, and nothing is
accepted that the signer has not signed, exactly if the expiry is not within half a double's step
of the next second.** -/
theorem faithful_iff {signer : Signer F} (hsigner : signer.Honest) {claims : Claims}
    {token : String} {spec : SignatureSpec}
    (hmint : signCapabilityToken signer claims = .ok (token, spec)) :
    Faithful readFloat interpreter signer claims (codes token) ↔ claims.expiry.Representable := by
  rw [← intTimestamp_eq_iff]
  constructor
  · exact intTimestamp_of_faithful readFloat interpreter hsigner hmint
  · intro heq
    obtain ⟨read, hread, hsame⟩ := verify_minted readFloat interpreter hsigner hmint
    rw [heq] at hsame
    exact ⟨⟨read, hread, hsame⟩, fun other payload h =>
      accepted_signed readFloat interpreter hsigner h⟩

end

/-! ### The last moment of the year 9999 -/

/-- A signer whose signature is the text of what it signs. -/
def plainSigner : Signer Unit where
  algorithm := "EdDSA"
  keyId := "key-1"
  sign input := .ok
    ⟨"EdDSA", "key-1", String.ofList (TransparencyFormat.base64UrlUnpadded input)⟩
  verify input algorithm keyId value :=
    isText "EdDSA" (some algorithm) && isText "key-1" (some keyId)
      && value = Base64Url.encode input

theorem plainSigner_honest : plainSigner.Honest := by
  have hvalue : ∀ input, codes (String.ofList (TransparencyFormat.base64UrlUnpadded input))
      = Base64Url.encode input := by
    intro input
    rw [codes, String.toList_ofList, encode_eq]
  refine ⟨?_, ?_, ?_⟩
  · intro input spec hsign
    obtain rfl := Except.ok.inj hsign
    simp [plainSigner, isText, hvalue]
  · intro input algorithm keyId value hverify
    simp only [plainSigner, Bool.and_eq_true, decide_eq_true_eq] at hverify
    exact ⟨_, rfl, (hvalue input).trans hverify.2.symm⟩
  · intro input spec hsign
    obtain rfl := Except.ok.inj hsign
    rw [hvalue]
    exact Base64Url.dot_notMem_encode input

/-- The limits an interpreter starts with. -/
def pythonDefaults : Interpreter := ⟨4300, 900, by decide, by decide⟩

/-- `datetime.max` in UTC. -/
def lastMoment : Expiry := ⟨253402300799999999, by decide, by decide⟩

/-- Claims that end with the last moment there is. -/
def lastClaims : Claims := ⟨"escrow-1", "digest", ["payments"], "gateway", lastMoment, "nonce-1"⟩

/-- The token says the second after the last one. -/
theorem last_unfaithful : ∃ token spec,
    signCapabilityToken plainSigner lastClaims = .ok (token, spec) ∧
      ¬ Faithful (fun _ => ()) pythonDefaults plainSigner lastClaims (codes token) := by
  refine ⟨_, _, rfl, ?_⟩
  intro h
  have heq := intTimestamp_of_faithful (fun _ => ()) pythonDefaults plainSigner_honest rfl h
  exact absurd heq (by decide)

/-- The same claims, ending at the first. -/
def firstClaims : Claims := { lastClaims with expiry := ⟨0, by decide, by decide⟩ }

/-- The token of a moment that is representable is faithful. -/
theorem first_faithful : ∃ token spec,
    signCapabilityToken plainSigner firstClaims = .ok (token, spec) ∧
      Faithful (fun _ => ()) pythonDefaults plainSigner firstClaims (codes token) := by
  refine ⟨_, _, rfl, ?_⟩
  exact (faithful_iff (fun _ => ()) pythonDefaults plainSigner_honest rfl).mpr
    (representable_of_lt (by decide))

end ControlPlane.CapabilityTokens
