/-
The Merkle functions of the transparency log against the verifiers of RFC 9162.

The source's functions are the library's at its own node hash: `merkleRoot_eq`,
`inclusionPath_eq` and `consistencyPath_eq` say so, exceptions included, and after
them nothing here unfolds the source again.

What a tree head binds is stated about the messages that are really hashed.  SHA-256
has collisions, as every function from a larger set to a smaller one has, so a
hypothesis that denies them altogether would be false.  `CollisionFreeOn` is asked of
the leaf and node messages of the trees at hand and of the verifier's own run.
-/
import ControlPlane.Lib.MerkleProofs
import Mathlib.Data.List.Nodup
import ControlPlane.Services.TransparencyFormat

namespace ControlPlane.TransparencyFormat

open Rfc9162

/-! ### The source's functions are the library's -/

theorem length_nodeHash (left right : Bytes) : (nodeHash left right).length = 32 :=
  length_sha256 _

theorem largestPowerOfTwoLessThan_eq {value : Nat} (h : 2 ≤ value) :
    largestPowerOfTwoLessThan value = .ok (Merkle.splitPoint value) := by
  cases hsplit : largestPowerOfTwoLessThan value with
  | error e =>
      rw [largestPowerOfTwoLessThan, if_neg (by omega)] at hsplit
      cases hsplit
  | ok split => rw [(largestPowerOfTwoLessThan_ok hsplit).2]

/-- The root of the tree over the given leaf hashes. -/
abbrev treeRoot (leafHashes : List Bytes) : Bytes :=
  Merkle.root nodeHash emptyTreeHash leafHashes

theorem treeRoot_split {leafHashes : List Bytes} (h : 2 ≤ leafHashes.length) :
    treeRoot leafHashes
      = nodeHash (treeRoot (leafHashes.take (Merkle.splitPoint leafHashes.length)))
          (treeRoot (leafHashes.drop (Merkle.splitPoint leafHashes.length))) :=
  Merkle.root_split leafHashes h

theorem merkleRoot_eq : ∀ (n : Nat) (leafHashes : List Bytes), leafHashes.length = n →
    merkleRoot leafHashes = .ok (treeRoot leafHashes) := by
  intro n
  induction n using Nat.strong_induction_on with
  | _ n ih =>
      intro leafHashes hlen
      subst hlen
      match leafHashes with
      | [] => rw [merkleRoot]; simp [treeRoot]
      | [leaf] => rw [merkleRoot]; simp [treeRoot]
      | a :: b :: rest =>
          have hlen : 2 ≤ (a :: b :: rest).length := by simp
          have hlt := Merkle.splitPoint_lt hlen
          have hpos := Merkle.splitPoint_pos (a :: b :: rest).length
          have hroot := treeRoot_split hlen
          rw [merkleRoot, if_neg (by simp), if_neg (by simp)]
          split
          · rename_i e he
            rw [largestPowerOfTwoLessThan_eq hlen] at he
            cases he
          · rename_i split hsplit
            rw [largestPowerOfTwoLessThan_eq hlen] at hsplit
            cases hsplit
            rw [ih _ hlt _ (by rw [List.length_take]; omega),
              ih ((a :: b :: rest).length - Merkle.splitPoint (a :: b :: rest).length)
                (by omega) _ List.length_drop, hroot]
            rfl

@[simp] theorem merkleRoot_ok (leafHashes : List Bytes) :
    merkleRoot leafHashes = .ok (treeRoot leafHashes) :=
  merkleRoot_eq _ leafHashes rfl

theorem inclusionPath_eq : ∀ (n : Nat) (leafHashes : List Bytes), leafHashes.length = n →
    ∀ i : Nat, i < n → inclusionPath leafHashes i
      = .ok ((Merkle.inclusionPath nodeHash emptyTreeHash leafHashes i).map toHex) := by
  intro n
  induction n using Nat.strong_induction_on with
  | _ n ih =>
      intro leafHashes hlen i hi
      subst hlen
      have hne : leafHashes.isEmpty = false := by
        cases leafHashes with
        | nil => simp at hi
        | cons _ _ => rfl
      rw [inclusionPath, if_neg (by simp [hne]; omega)]
      by_cases hone : leafHashes.length = 1
      · rw [if_pos hone, Merkle.inclusionPath, if_pos (by omega)]
        rfl
      · have hlen : 2 ≤ leafHashes.length := by omega
        have hlt := Merkle.splitPoint_lt hlen
        have hpos := Merkle.splitPoint_pos leafHashes.length
        rw [if_neg hone]
        split
        · rename_i e he
          rw [largestPowerOfTwoLessThan_eq hlen] at he
          cases he
        · rename_i split hsplit
          rw [largestPowerOfTwoLessThan_eq hlen] at hsplit
          cases hsplit
          by_cases hleft : i < Merkle.splitPoint leafHashes.length
          · rw [if_pos (by omega), ih _ hlt _ (by rw [List.length_take]; omega) i hleft,
              merkleRoot_ok, Merkle.inclusionPath_left hlen hleft, List.map_append]
            rfl
          · rw [if_neg (by omega),
              show ((i : Int) - (Merkle.splitPoint leafHashes.length : Int))
                = ((i - Merkle.splitPoint leafHashes.length : Nat) : Int) by omega,
              ih (leafHashes.length - Merkle.splitPoint leafHashes.length) (by omega) _
                List.length_drop _ (by omega),
              merkleRoot_ok, Merkle.inclusionPath_right hlen hleft, List.map_append]
            rfl

theorem consistencySubpath_eq : ∀ (n : Nat) (leafHashes : List Bytes), leafHashes.length = n →
    ∀ (m : Nat) (includeOldRoot : Bool), 0 < m → m ≤ n →
      consistencySubpath m leafHashes includeOldRoot
        = .ok (Merkle.consistencyPath nodeHash emptyTreeHash m leafHashes includeOldRoot) := by
  intro n
  induction n using Nat.strong_induction_on with
  | _ n ih =>
      intro leafHashes hlen m includeOldRoot hm hmn
      subst hlen
      rw [consistencySubpath]
      by_cases heq : m = leafHashes.length
      · rw [if_pos heq, Merkle.consistencyPath_whole (by omega), merkleRoot_ok]
        cases includeOldRoot <;> rfl
      · have hlen : 2 ≤ leafHashes.length := by omega
        have hlt := Merkle.splitPoint_lt hlen
        have hpos := Merkle.splitPoint_pos leafHashes.length
        rw [if_neg heq]
        split
        · rename_i e he
          rw [largestPowerOfTwoLessThan_eq hlen] at he
          cases he
        · rename_i split hsplit
          rw [largestPowerOfTwoLessThan_eq hlen] at hsplit
          cases hsplit
          by_cases hleft : m ≤ Merkle.splitPoint leafHashes.length
          · rw [if_pos hleft, ih _ hlt _ (by rw [List.length_take]; omega) m _ hm hleft,
              merkleRoot_ok, Merkle.consistencyPath_left (by omega) hm hleft]
            rfl
          · rw [if_neg hleft,
              ih (leafHashes.length - Merkle.splitPoint leafHashes.length) (by omega) _
                List.length_drop _ _ (by omega) (by omega),
              merkleRoot_ok, Merkle.consistencyPath_right (by omega) hleft]
            rfl

theorem consistencyPath_eq {leafHashes : List Bytes} {m n : Nat} (hm : 0 < m) (hmn : m < n)
    (hn : n ≤ leafHashes.length) :
    consistencyPath leafHashes m n
      = .ok ((Merkle.consistencyPath nodeHash emptyTreeHash m (leafHashes.take n) true).map
          toHex) := by
  rw [consistencyPath, if_neg (by omega), if_neg (by omega), Int.toNat_natCast,
    Int.toNat_natCast, consistencySubpath_eq n _ (by rw [List.length_take]; omega) m true hm
      (by omega)]
  rfl

theorem consistencyPath_self {leafHashes : List Bytes} {n : Nat} (hn : n ≤ leafHashes.length) :
    consistencyPath leafHashes n n = .ok [] := by
  rw [consistencyPath, if_neg (by omega), if_pos (Or.inr rfl)]

/-! ### Served proofs are accepted -/

/-- A path as a verifier reads it: every element is hex text of a hash. -/
def readPath (path : List String) : Option (List Bytes) := path.mapM fromHex

@[simp] theorem readPath_toHex (hashes : List Bytes) :
    readPath (hashes.map toHex) = some hashes := by
  induction hashes with
  | nil => rfl
  | cons hash rest ih =>
      rw [readPath] at ih ⊢
      rw [List.map_cons, List.mapM_cons, ih, fromHex_toHex]
      rfl

/-- **Every inclusion path leads a verifier from the leaf hash to the root.** -/
theorem inclusionPath_accepted (leafHashes : List Bytes) (i : Nat) (hi : i < leafHashes.length) :
    ∃ path hashes rootHash, inclusionPath leafHashes i = .ok path ∧
      readPath path = some hashes ∧ merkleRoot leafHashes = .ok rootHash ∧
      inclusionRoot nodeHash i leafHashes.length leafHashes[i] hashes = some rootHash := by
  refine ⟨_, _, _, inclusionPath_eq _ leafHashes rfl i hi, readPath_toHex _,
    merkleRoot_ok leafHashes, ?_⟩
  exact inclusionRoot_inclusionPath (List.getElem?_eq_getElem hi)

theorem inclusionPath_accepted_three :
    ∃ path hashes rootHash, inclusionPath [[0], [1], [2]] (2 : Nat) = .ok path ∧
      readPath path = some hashes ∧ merkleRoot [[0], [1], [2]] = .ok rootHash ∧
      inclusionRoot nodeHash 2 3 [2] hashes = some rootHash :=
  inclusionPath_accepted [[0], [1], [2]] 2 (by decide)

/--
**Every consistency path between two sizes leads a verifier to both roots.**  The
algorithm is for two different sizes.  Between a size and itself the path is empty
and the two roots are one.
-/
theorem consistencyPath_accepted (leafHashes : List Bytes) (m n : Nat) (hm : 1 ≤ m)
    (hmn : m ≤ n) (hn : n ≤ leafHashes.length) :
    ∃ path hashes oldRoot newRoot, consistencyPath leafHashes m n = .ok path ∧
      readPath path = some hashes ∧ merkleRoot (leafHashes.take m) = .ok oldRoot ∧
      merkleRoot (leafHashes.take n) = .ok newRoot ∧
      (m < n → consistencyRoots nodeHash m n oldRoot hashes = some (oldRoot, newRoot)) ∧
      (m = n → path = [] ∧ oldRoot = newRoot) := by
  rcases Nat.lt_or_eq_of_le hmn with hlt | rfl
  · refine ⟨_, _, _, _, consistencyPath_eq (by omega) hlt hn, readPath_toHex _,
      merkleRoot_ok _, merkleRoot_ok _, fun _ => ?_, fun h => by omega⟩
    have hlen : (leafHashes.take n).length = n := by rw [List.length_take]; omega
    have h := @consistencyRoots_consistencyPath _ nodeHash emptyTreeHash (leafHashes.take n) m
      (by omega) (by omega)
    rwa [hlen, List.take_take, Nat.min_eq_left hmn] at h
  · exact ⟨[], [], _, _, consistencyPath_self hn, rfl, merkleRoot_ok _, merkleRoot_ok _,
      fun h => by omega, fun _ => ⟨rfl, rfl⟩⟩

theorem consistencyPath_accepted_three :
    ∃ path hashes oldRoot newRoot, consistencyPath [[0], [1], [2]] (2 : Nat) (3 : Nat) = .ok path ∧
      readPath path = some hashes ∧ merkleRoot [[0], [1]] = .ok oldRoot ∧
      merkleRoot [[0], [1], [2]] = .ok newRoot ∧
      (2 < 3 → consistencyRoots nodeHash 2 3 oldRoot hashes = some (oldRoot, newRoot)) ∧
      (2 = 3 → path = [] ∧ oldRoot = newRoot) :=
  consistencyPath_accepted [[0], [1], [2]] 2 3 (by decide) (by decide) (by decide)

/-- The algorithm refuses the empty path that is served between a size and itself. -/
theorem consistencyPath_same_size_refused :
    ¬ ∀ (leafHashes : List Bytes) (m n : Nat), 1 ≤ m → m ≤ n → n ≤ leafHashes.length →
      ∃ path hashes oldRoot newRoot, consistencyPath leafHashes m n = .ok path ∧
        readPath path = some hashes ∧ merkleRoot (leafHashes.take m) = .ok oldRoot ∧
        merkleRoot (leafHashes.take n) = .ok newRoot ∧
        consistencyRoots nodeHash m n oldRoot hashes = some (oldRoot, newRoot) := by
  intro hall
  obtain ⟨path, hashes, oldRoot, newRoot, hpath, hread, _, _, hroots⟩ :=
    hall [[0]] 1 1 (by decide) (by decide) (by decide)
  rw [consistencyPath_self (by decide)] at hpath
  cases hpath
  cases hread
  cases hroots

/-! ### What a digest text stands for -/

theorem isHex256_toHex {bytes : Bytes} (h : bytes.length = 32) : isHex256 (toHex bytes) = true := by
  have hlower : ∀ n < 16, Hex.isLower (Hex.digit n) = true := by decide
  have hall : ∀ bs : Bytes, (Hex.encode bs).all Hex.isLower = true := by
    intro bs
    induction bs with
    | nil => rfl
    | cons b rest ih =>
        have hb := b.toNat_lt
        show (Hex.ofByte b ++ Hex.encode rest).all Hex.isLower = true
        rw [List.all_append, ih, Hex.ofByte]
        simp [hlower (b.toNat / 16) (by omega), hlower (b.toNat % 16) (by omega)]
  rw [isHex256, toHex, String.toList_ofList, Hex.length_encode, h, hall]
  rfl

/-- A digest text is the hex text of thirty-two bytes. -/
theorem isHex256_cases {text : String} (h : isHex256 text = true) :
    ∃ bytes : Bytes, bytes.length = 32 ∧ text = toHex bytes := by
  simp only [isHex256, Bool.and_eq_true, decide_eq_true_eq, List.all_eq_true] at h
  obtain ⟨bytes, hlen, henc⟩ := Hex.exists_encode 32 text.toList h.1 h.2
  refine ⟨bytes, hlen, ?_⟩
  rw [toHex, henc, String.ofList_toList]

/-- The bytes of a digest text. -/
def digestBytes (text : String) : Bytes := (fromHex text).getD []

theorem isHex256_ofList (chars : List Char) :
    isHex256 (String.ofList chars) = (chars.length = 64 && chars.all Hex.isLower) := by
  rw [isHex256, String.toList_ofList]

theorem digestBytes_ofList (chars : List Char) :
    digestBytes (String.ofList chars) = (Hex.decode chars).getD [] := by
  rw [digestBytes, fromHex, String.toList_ofList]

theorem leafHash_eq {text : String} (h : isHex256 text = true) :
    leafHash text = .ok (sha256 (leafMessage (digestBytes text))) := by
  obtain ⟨bytes, hlen, rfl⟩ := isHex256_cases h
  simp only [leafHash, normalizeReceiptDigest, normalizeReceiptDigest.check, h, if_true, readHex,
    fromHex_toHex, digestBytes, bind, Except.bind, pure, Except.pure, Option.getD_some]

theorem digestBytes_injective {d d' : String} (h : isHex256 d = true) (h' : isHex256 d' = true)
    (heq : digestBytes d = digestBytes d') : d = d' := by
  obtain ⟨bytes, _, rfl⟩ := isHex256_cases h
  obtain ⟨bytes', _, rfl⟩ := isHex256_cases h'
  simp only [digestBytes, fromHex_toHex, Option.getD_some] at heq
  rw [heq]

/-! ### What a tree head binds -/

/-- The leaf hashes of a list of digests. -/
def leafHashesOf (digests : List String) : Except TransparencyError (List Bytes) :=
  digests.mapM leafHash

/-- The leaf messages of a list of digests. -/
def leafMessages (digests : List String) : Set Bytes :=
  {m | ∃ d ∈ digests, m = leafMessage (digestBytes d)}

/-- The node messages of a list of pairs of hashes. -/
def nodeMessages (pairs : List (Bytes × Bytes)) : Set Bytes :=
  {m | ∃ p ∈ pairs, m = nodeMessage p.1 p.2}

theorem leafHashesOf_eq : ∀ {digests : List String}, (∀ d ∈ digests, isHex256 d = true) →
    leafHashesOf digests
      = .ok (digests.map fun d => sha256 (leafMessage (digestBytes d))) := by
  intro digests
  induction digests with
  | nil => intro _; rfl
  | cons d rest ih =>
      intro h
      have hrest := ih fun x hx => h x (by simp [hx])
      rw [leafHashesOf] at hrest ⊢
      rw [List.mapM_cons, leafHash_eq (h d (by simp)), hrest]
      rfl

theorem length_of_leafHashesOf {digests : List String} {leafHashes : List Bytes}
    (hd : ∀ d ∈ digests, isHex256 d = true) (h : leafHashesOf digests = .ok leafHashes) :
    leafHashes.length = digests.length ∧ ∀ x ∈ leafHashes, x.length = 32 := by
  rw [leafHashesOf_eq hd] at h
  cases h
  refine ⟨List.length_map _, fun x hx => ?_⟩
  obtain ⟨d, _, rfl⟩ := List.mem_map.mp hx
  exact length_sha256 _

/-- Two messages of a node agree in both halves once one half is known to be a digest. -/
theorem nodeMessage_injective {a b c d : Bytes} (h : nodeMessage a b = nodeMessage c d)
    (hc : c.length = 32) (hd : d.length = 32) (hab : a.length = 32 ∨ b.length = 32) :
    a = c ∧ b = d := by
  have happ : a ++ b = c ++ d := by
    simpa [nodeMessage] using h
  have hlen : a.length + b.length = c.length + d.length := by
    rw [← List.length_append, ← List.length_append, happ]
  exact List.append_inj happ (by omega)

/-- Collision-freeness on the node messages of some pairs is what the library asks for. -/
theorem cancels_of_collisionFree {pairs : Set (Bytes × Bytes)} {messages : Set Bytes}
    (hfree : CollisionFreeOn messages)
    (hsub : ∀ p ∈ pairs, nodeMessage p.1 p.2 ∈ messages) :
    Cancels nodeHash (fun x => x.length = 32) pairs := by
  intro a b c d hab hcd heq hc hd hor
  have hmessage : nodeMessage a b = nodeMessage c d :=
    hfree (hsub _ hab) (hsub _ hcd) heq
  exact nodeMessage_injective hmessage hc hd hor

/-- Equal leaf hashes come from equal digests. -/
theorem digests_eq_of_leafHashes {digests digests' : List String} {messages : Set Bytes}
    (hd : ∀ d ∈ digests, isHex256 d = true) (hd' : ∀ d ∈ digests', isHex256 d = true)
    (hfree : CollisionFreeOn messages) (hsub : leafMessages digests ⊆ messages)
    (hsub' : leafMessages digests' ⊆ messages)
    (h : leafHashesOf digests = leafHashesOf digests') : digests = digests' := by
  rw [leafHashesOf_eq hd, leafHashesOf_eq hd'] at h
  have hmap := Except.ok.inj h
  clear h
  induction digests generalizing digests' with
  | nil =>
      cases digests' with
      | nil => rfl
      | cons d' rest' => simp at hmap
  | cons d rest ih =>
      cases digests' with
      | nil => simp at hmap
      | cons d' rest' =>
          simp only [List.map_cons, List.cons.injEq] at hmap
          have hmessage := hfree (hsub ⟨d, by simp, rfl⟩) (hsub' ⟨d', by simp, rfl⟩) hmap.1
          have hbytes : digestBytes d = digestBytes d' := by
            simpa [leafMessage] using hmessage
          rw [digestBytes_injective (hd d (by simp)) (hd' d' (by simp)) hbytes,
            ih (fun x hx => hd x (by simp [hx])) (fun x hx => hd' x (by simp [hx]))
              (fun m ⟨x, hx, hm⟩ => hsub ⟨x, by simp [hx], hm⟩)
              (fun m ⟨x, hx, hm⟩ => hsub' ⟨x, by simp [hx], hm⟩) hmap.2]

/-- A tree head: the root over a list of digests, with the digests it is over. -/
structure TreeHead where
  digests : List String
  leafHashes : List Bytes
  rootHash : Bytes
  /-- Every digest is one that `normalize_receipt_digest` accepts. -/
  valid : ∀ d ∈ digests, isHex256 d = true
  leaves : leafHashesOf digests = .ok leafHashes
  root : merkleRoot leafHashes = .ok rootHash

namespace TreeHead

/-- The head of the tree over some digests. -/
def ofDigests (digests : List String) (valid : ∀ d ∈ digests, isHex256 d = true) : TreeHead :=
  ⟨digests, _, _, valid, leafHashesOf_eq valid, merkleRoot_ok _⟩

/-- Everything that is hashed on the way to the root. -/
def messages (T : TreeHead) : Set Bytes :=
  leafMessages T.digests ∪ nodeMessages (rootPairs nodeHash emptyTreeHash T.leafHashes)

theorem length_leafHashes (T : TreeHead) : T.leafHashes.length = T.digests.length :=
  (length_of_leafHashesOf T.valid T.leaves).1

theorem isDigest (T : TreeHead) : ∀ x ∈ T.leafHashes, x.length = 32 :=
  (length_of_leafHashesOf T.valid T.leaves).2

theorem rootHash_eq (T : TreeHead) : T.rootHash = treeRoot T.leafHashes := by
  have h := T.root
  rw [merkleRoot_ok] at h
  exact (Except.ok.inj h).symm

theorem node_mem_messages {T : TreeHead} {p : Bytes × Bytes}
    (h : p ∈ rootPairs nodeHash emptyTreeHash T.leafHashes) :
    nodeMessage p.1 p.2 ∈ T.messages :=
  Or.inr ⟨p, h, rfl⟩

/-- Two heads whose leaf hashes agree are over the same digests. -/
theorem digests_eq (T T' : TreeHead) {messages : Set Bytes} (hfree : CollisionFreeOn messages)
    (hsub : T.messages ⊆ messages) (hsub' : T'.messages ⊆ messages)
    (h : T'.leafHashes = T.leafHashes.take T'.digests.length) :
    T'.digests = T.digests.take T'.digests.length := by
  have htake : leafHashesOf (T.digests.take T'.digests.length)
      = .ok (T.leafHashes.take T'.digests.length) := by
    have hall := T.leaves
    rw [leafHashesOf_eq T.valid] at hall
    rw [leafHashesOf_eq fun d hd => T.valid d (List.mem_of_mem_take hd), List.map_take,
      Except.ok.inj hall]
  refine digests_eq_of_leafHashes T'.valid (fun d hd => T.valid d (List.mem_of_mem_take hd))
    hfree (fun m hm => hsub' (Or.inl hm)) ?_ (by rw [T'.leaves, htake, h])
  rintro m ⟨d, hd, rfl⟩
  exact hsub (Or.inl ⟨d, List.mem_of_mem_take hd, rfl⟩)

theorem length_emptyTreeHash : emptyTreeHash.length = 32 := length_sha256 _

/-- **An accepted inclusion proof names the digest at its index.** -/
theorem inclusion_binds (T : TreeHead) {i : Nat} {d : String} {hash : Bytes} {path : List Bytes}
    (hhash : leafHash d = .ok hash)
    (hfree : CollisionFreeOn (T.messages ∪ leafMessages [d]
      ∪ nodeMessages (inclusionPairs nodeHash i T.digests.length hash path)))
    (haccept : verifyInclusion nodeHash i T.digests.length hash path T.rootHash = true) :
    T.digests[i]? = some d := by
  have hvalid : isHex256 d = true := by
    by_contra hnot
    simp [leafHash, normalizeReceiptDigest, normalizeReceiptDigest.check,
      normalizeReceiptDigest.refuse, hnot, bind, Except.bind] at hhash
  rw [leafHash_eq hvalid] at hhash
  cases hhash
  rw [← T.length_leafHashes] at hfree haccept
  rw [T.rootHash_eq] at haccept
  have hleaf := inclusion_sound (fun x => x.length = 32) length_nodeHash
    length_emptyTreeHash T.isDigest (length_sha256 _)
    (cancels_of_collisionFree hfree (by
      rintro p (hp | hp)
      · exact Or.inl (Or.inl (node_mem_messages hp))
      · exact Or.inr ⟨p, hp, rfl⟩)) haccept
  have hleaves := T.leaves
  rw [leafHashesOf_eq T.valid] at hleaves
  rw [← Except.ok.inj hleaves, List.getElem?_map] at hleaf
  obtain ⟨x, hx, hsame⟩ := Option.map_eq_some_iff.mp hleaf
  have hmem := List.mem_of_getElem? hx
  have hmessage := hfree (Or.inl (Or.inl (Or.inl ⟨x, hmem, rfl⟩)))
    (Or.inl (Or.inr ⟨d, by simp, rfl⟩)) hsame
  have hbytes : digestBytes x = digestBytes d := by simpa [leafMessage] using hmessage
  rw [hx, digestBytes_injective (T.valid x hmem) hvalid hbytes]

/-- **An accepted consistency proof names a prefix.** -/
theorem consistency_binds (T T' : TreeHead) {path : List Bytes}
    (hle : T'.digests.length ≤ T.digests.length)
    (hfree : CollisionFreeOn (T.messages ∪ T'.messages
      ∪ nodeMessages (consistencyPairs nodeHash T'.digests.length T.digests.length T'.rootHash
          path)))
    (haccept : verifyConsistency nodeHash T'.digests.length T.digests.length T'.rootHash
      T.rootHash path = true) :
    T'.digests = T.digests.take T'.digests.length := by
  apply digests_eq T T' hfree (fun m hm => Or.inl (Or.inl hm)) (fun m hm => Or.inl (Or.inr hm))
  rw [← T.length_leafHashes, ← T'.length_leafHashes, T'.rootHash_eq] at hfree
  rw [← T.length_leafHashes, ← T'.length_leafHashes] at haccept hle
  rw [T.rootHash_eq, T'.rootHash_eq] at haccept
  rw [← T'.length_leafHashes]
  exact consistency_sound (fun x => x.length = 32) length_nodeHash
    length_emptyTreeHash hle T.isDigest T'.isDigest
    (cancels_of_collisionFree hfree (by
      rintro p (hp | hp | hp)
      · exact Or.inl (Or.inl (node_mem_messages hp))
      · exact Or.inl (Or.inr (node_mem_messages hp))
      · exact Or.inr ⟨p, hp, rfl⟩)) haccept

/-- **Size and root determine the digests.** -/
theorem root_binds (T T' : TreeHead) (hlen : T'.digests.length = T.digests.length)
    (hfree : CollisionFreeOn (T.messages ∪ T'.messages))
    (hroot : T'.rootHash = T.rootHash) : T'.digests = T.digests := by
  have hleaves : T'.leafHashes = T.leafHashes := by
    rw [T.rootHash_eq, T'.rootHash_eq] at hroot
    exact root_sound (fun x => x.length = 32) length_nodeHash length_emptyTreeHash
      (by rw [T.length_leafHashes, T'.length_leafHashes, hlen]) T'.isDigest T.isDigest
      (cancels_of_collisionFree hfree (by
        rintro p (hp | hp)
        · exact Or.inr (node_mem_messages hp)
        · exact Or.inl (node_mem_messages hp))) hroot
  have h := digests_eq T T' hfree (fun m hm => Or.inl hm) (fun m hm => Or.inr hm)
    (by rw [hleaves, List.take_of_length_le (by rw [T.length_leafHashes]; omega)])
  rwa [List.take_of_length_le (by omega)] at h

end TreeHead

/--
**A tree head binds the contents of the log**, whatever path is presented: the leaf at
an index, the list of which another is a prefix, and the list as a whole.
-/
theorem treeHead_binds_contents (T T' : TreeHead) (path : List Bytes) :
    (∀ (i : Nat) (d : String) (hash : Bytes), leafHash d = .ok hash →
      CollisionFreeOn (T.messages ∪ leafMessages [d]
        ∪ nodeMessages (inclusionPairs nodeHash i T.digests.length hash path)) →
      verifyInclusion nodeHash i T.digests.length hash path T.rootHash = true →
      T.digests[i]? = some d) ∧
    (T'.digests.length ≤ T.digests.length →
      CollisionFreeOn (T.messages ∪ T'.messages
        ∪ nodeMessages (consistencyPairs nodeHash T'.digests.length T.digests.length
            T'.rootHash path)) →
      verifyConsistency nodeHash T'.digests.length T.digests.length T'.rootHash T.rootHash
        path = true →
      T'.digests = T.digests.take T'.digests.length) ∧
    (T'.digests.length = T.digests.length → CollisionFreeOn (T.messages ∪ T'.messages) →
      T'.rootHash = T.rootHash → T'.digests = T.digests) :=
  ⟨fun _ _ _ hhash hfree haccept => T.inclusion_binds hhash hfree haccept,
    fun hle hfree haccept => T.consistency_binds T' hle hfree haccept,
    fun hlen hfree hroot => T.root_binds T' hlen hfree hroot⟩

/-! A log of two digests, on which every hypothesis of the theorem is met. -/

/-- The digest text of sixty-four equal digits. -/
def sampleDigest (c : Char) : String := String.ofList (List.replicate 64 c)

theorem sampleDigest_valid : ∀ d ∈ [sampleDigest '0', sampleDigest '1'], isHex256 d = true := by
  intro d hd
  rcases List.mem_pair.mp hd with rfl | rfl
  · exact (isHex256_ofList _).trans (by decide)
  · exact (isHex256_ofList _).trans (by decide)

theorem sampleDigests_differ : sampleDigest '1' ≠ sampleDigest '0' := by
  intro h
  have hchars : List.replicate 64 '1' = List.replicate 64 '0' := String.ofList_injective h
  revert hchars
  decide

/-- The head of the tree over two digests. -/
def sampleHead : TreeHead := .ofDigests [sampleDigest '0', sampleDigest '1'] sampleDigest_valid

/-- The head of the tree over the first of them. -/
def samplePrefix : TreeHead :=
  .ofDigests [sampleDigest '0'] fun d hd => sampleDigest_valid d (by simp_all)

/-- The leaf hash of one of the two digests. -/
def sampleLeaf (c : Char) : Bytes := sha256 (leafMessage (digestBytes (sampleDigest c)))

private theorem rootPairs_two (a b : Bytes) :
    rootPairs nodeHash emptyTreeHash [a, b] = [(a, b)] := by
  have hsplit : Merkle.splitPoint ([a, b].map Traced.leaf).length = 1 := by
    show Merkle.splitPoint 2 = 1
    decide
  rw [rootPairs, Merkle.root_split _ (by simp), hsplit]
  simp [Traced.join, Traced.leaf]

private theorem rootPairs_one (a : Bytes) : rootPairs nodeHash emptyTreeHash [a] = [] := by
  simp [rootPairs, Traced.leaf]

private theorem consistencyPairs_two (a b : Bytes) :
    consistencyPairs nodeHash 1 2 a [b] = [(a, b)] := by
  rw [consistencyPairs, consistencyRoots, shiftToUnset_even (by decide)]
  rfl

private theorem treeRoot_two (a b : Bytes) : treeRoot [a, b] = nodeHash a b := by
  rw [treeRoot_split (by simp), show Merkle.splitPoint [a, b].length = 1 by
    show Merkle.splitPoint 2 = 1
    decide]
  simp [treeRoot]

/-- The head of the tree over the two digests the other way round. -/
def swappedHead : TreeHead :=
  .ofDigests [sampleDigest '1', sampleDigest '0'] fun d hd =>
    sampleDigest_valid d ((List.Perm.swap _ _ []).mem_iff.mp hd)

/-- What is hashed for the digests in both orders: two leaves and two nodes. -/
def sampleMessages : List Bytes :=
  [leafMessage (digestBytes (sampleDigest '0')), leafMessage (digestBytes (sampleDigest '1')),
    nodeMessage (sampleLeaf '0') (sampleLeaf '1'), nodeMessage (sampleLeaf '1') (sampleLeaf '0')]

private theorem sampleMessages_collisionFree : CollisionFreeOn {m | m ∈ sampleMessages} := by
  have hzeros : digestBytes (sampleDigest '0') = List.replicate 32 0 :=
    (digestBytes_ofList _).trans (by decide +kernel)
  have hones : digestBytes (sampleDigest '1') = List.replicate 32 0x11 :=
    (digestBytes_ofList _).trans (by decide +kernel)
  have hdistinct : (sampleMessages.map sha256).Nodup := by
    unfold sampleMessages sampleLeaf
    rw [hzeros, hones]
    decide +kernel
  exact fun a ha b hb hab => List.inj_on_of_nodup_map hdistinct ha hb hab

private theorem node_mem_sampleMessages :
    nodeMessages [(sampleLeaf '0', sampleLeaf '1')] ⊆ {m | m ∈ sampleMessages} := by
  rintro m ⟨p, hp, rfl⟩
  rw [List.mem_singleton.mp hp]
  simp [sampleMessages]

private theorem sampleHead_messages : sampleHead.messages ⊆ {m | m ∈ sampleMessages} := by
  rintro m (⟨d, hd, rfl⟩ | hm)
  · rcases List.mem_pair.mp hd with rfl | rfl <;> simp [sampleMessages]
  · rw [show sampleHead.leafHashes = [sampleLeaf '0', sampleLeaf '1'] from rfl,
      rootPairs_two] at hm
    exact node_mem_sampleMessages hm

private theorem samplePrefix_messages : samplePrefix.messages ⊆ {m | m ∈ sampleMessages} := by
  rintro m (⟨d, hd, rfl⟩ | ⟨p, hp, rfl⟩)
  · rw [List.mem_singleton.mp hd]
    simp [sampleMessages]
  · rw [show samplePrefix.leafHashes = [sampleLeaf '0'] from rfl, rootPairs_one] at hp
    cases hp

private theorem swappedHead_messages : swappedHead.messages ⊆ {m | m ∈ sampleMessages} := by
  rintro m (⟨d, hd, rfl⟩ | ⟨p, hp, rfl⟩)
  · rcases List.mem_pair.mp hd with rfl | rfl <;> simp [sampleMessages]
  · rw [show swappedHead.leafHashes = [sampleLeaf '1', sampleLeaf '0'] from rfl,
      rootPairs_two] at hp
    rw [List.mem_singleton.mp hp]
    simp [sampleMessages]

theorem treeHead_binds_contents_two :
    sampleHead.digests[1]? = some (sampleDigest '1') ∧
      samplePrefix.digests = sampleHead.digests.take 1 ∧
      swappedHead.rootHash ≠ sampleHead.rootHash := by
  have hroot : sampleHead.rootHash = nodeHash (sampleLeaf '0') (sampleLeaf '1') :=
    treeRoot_two _ _
  have hold : samplePrefix.rootHash = sampleLeaf '0' := Merkle.root_singleton _
  have hhead := treeHead_binds_contents sampleHead swappedHead [sampleLeaf '0']
  have hprefix := treeHead_binds_contents sampleHead samplePrefix [sampleLeaf '1']
  refine ⟨hhead.1 1 (sampleDigest '1') (sampleLeaf '1') ?_ ?_ ?_, hprefix.2.1 ?_ ?_ ?_,
    fun hsame => ?_⟩
  · exact leafHash_eq (sampleDigest_valid _ (by simp))
  · refine sampleMessages_collisionFree.mono ?_
    rintro m ((hm | ⟨d, hd, rfl⟩) | hm)
    · exact sampleHead_messages hm
    · rw [List.mem_singleton.mp hd]
      simp [sampleMessages]
    · exact node_mem_sampleMessages hm
  · rw [hroot]
    exact decide_eq_true rfl
  · decide
  · refine sampleMessages_collisionFree.mono ?_
    rintro m ((hm | hm) | hm)
    · exact sampleHead_messages hm
    · exact samplePrefix_messages hm
    · rw [hold, show samplePrefix.digests.length = 1 from rfl,
        show sampleHead.digests.length = 2 from rfl, consistencyPairs_two] at hm
      exact node_mem_sampleMessages hm
  · rw [hold, hroot, show samplePrefix.digests.length = 1 from rfl,
      show sampleHead.digests.length = 2 from rfl, verifyConsistency, consistencyRoots,
      shiftToUnset_even (by decide)]
    exact decide_eq_true rfl
  · -- one root would make the digests the same in both orders
    have hdigests := hhead.2.2 rfl (sampleMessages_collisionFree.mono fun m hm =>
      hm.elim (sampleHead_messages ·) (swappedHead_messages ·)) hsame
    exact absurd (List.cons.inj hdigests).1 sampleDigests_differ

end ControlPlane.TransparencyFormat
