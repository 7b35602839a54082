/-
The reconciliation worker of `app/services/permit_gateway_bridge.py`.

A pass lists the intents of the store, keeps those whose outcome is open and submits each of
them once more to the client of its target.  What the answer means for the lifecycle is decided
in three steps: the call itself is guarded, the decoding of the reported state is not, and the
transition is guarded again.  An exception that leaves the second step leaves the pass.

The intent package and the clients are parameters: the package turns an intent into the action
that is submitted, or raises, its manager moves the intent in the store, or raises, and a client
answers or raises.  A pass calls a client at most once for an intent, so what it does there is
given with the intent.
-/
import ControlPlane.Services.IntentStore

namespace ControlPlane.PermitGatewayBridge

open IntentsApi IntentStore

/-! ### Clients and their answers -/

/-- The proof of a re-submission. -/
structure ReconciliationProof where
  proofId : String
  executionMode : String := "resource_owned"
  reconciliation : Bool := true
deriving DecidableEq

/-- The member of a client's result that is read. -/
structure ModeAwareExecutionResult where
  state : String

/-- `ResourceOwnedSubmissionClient.submit`; without a result it raises. -/
structure ResourceClient (Action : Type) where
  submit : AuthorisedExecutionIntent → Action → ReconciliationProof → Option ModeAwareExecutionResult

/-- What the worker uses of the gateway. -/
structure Gateway (Action : Type) where
  /-- `gateway.resource_clients.get`. -/
  resourceClients : String → Option (ResourceClient Action)
  /-- `intent_manager._to_action`; without an action it raises. -/
  toAction : AuthorisedExecutionIntent → Option Action
  /-- `intent_manager.transition`; without a table it raises. -/
  transition : String → IntentLifecycle → IntentTable → Option IntentTable

/-- `ResourceOwnedExecutionState`. -/
inductive ResourceOwnedExecutionState where
  | submitted
  | accepted
  | succeeded
  | failed
  | refused
  | outcomeUnknown
deriving DecidableEq

/-- `ResourceOwnedExecutionState(value)`, which raises for any other string. -/
def ResourceOwnedExecutionState.ofValue? (value : String) : Option ResourceOwnedExecutionState :=
  if value = "submitted" then some .submitted
  else if value = "accepted" then some .accepted
  else if value = "succeeded" then some .succeeded
  else if value = "failed" then some .failed
  else if value = "refused" then some .refused
  else if value = "outcome_unknown" then some .outcomeUnknown
  else none

/-- `lifecycle_map`: nothing for the states that are still open. -/
def lifecycleMap : ResourceOwnedExecutionState → Option IntentLifecycle
  | .succeeded => some .succeeded
  | .failed => some .failed
  | .refused => some .refused
  | .submitted | .accepted | .outcomeUnknown => none

/-! ### A pass -/

/-- The table during a pass, and the submissions made so far. -/
structure Pass where
  table : IntentTable
  submissions : List (AuthorisedExecutionIntent × ReconciliationProof)

/-- The string that is no `ResourceOwnedExecutionState`. -/
structure ValueError where
  value : String
deriving DecidableEq

section

variable {Action : Type} (gateway : Gateway Action)

/-- The end of `_reconcile_intent`: the transition, and nothing if it raises. -/
def transition (intent : AuthorisedExecutionIntent) (newState : IntentLifecycle) (pass : Pass) :
    Pass :=
  match gateway.transition intent.intentId newState pass.table with
  | some table => { pass with table := table }
  | none => pass

/-- `_reconcile_intent`. -/
def reconcileIntent (intent : AuthorisedExecutionIntent) (pass : Pass) :
    Except ValueError Unit × Pass :=
  match gateway.resourceClients intent.body.targetId with
  | none => (.ok (), pass)
  | some client =>
      let proofId := intent.body.linkedProofId.getD ""
      if proofId = "" then (.ok (), pass)
      else
        match gateway.toAction intent with
        | none => (.ok (), pass)
        | some action =>
            let proof : ReconciliationProof := { proofId := proofId }
            let pass := { pass with submissions := pass.submissions ++ [(intent, proof)] }
            match client.submit intent action proof with
            | none => (.ok (), pass)
            | some result =>
                -- outside any handler: an unknown state raises
                match ResourceOwnedExecutionState.ofValue? result.state with
                | none => (.error ⟨result.state⟩, pass)
                | some state =>
                    match lifecycleMap state with
                    | none => (.ok (), pass)
                    | some newState => (.ok (), transition gateway intent newState pass)

/-- The loop of `_reconcile_once`. -/
def reconcileAll : List AuthorisedExecutionIntent → Pass → Except ValueError Unit × Pass
  | [], pass => (.ok (), pass)
  | intent :: rest, pass =>
      match reconcileIntent gateway intent pass with
      | (.ok (), pass) => reconcileAll rest pass
      | (.error e, pass) => (.error e, pass)

/-- Whether an intent is in `non_final_states`. -/
def isNonFinal (intent : AuthorisedExecutionIntent) : Bool :=
  intent.body.lifecycleState = .submitted || intent.body.lifecycleState = .outcomeUnknown

/-- `_reconcile_once`. -/
def reconcileOnce (table : IntentTable) : Except ValueError Unit × Pass :=
  reconcileAll gateway ((list table).filter isNonFinal) ⟨table, []⟩

end

end ControlPlane.PermitGatewayBridge
